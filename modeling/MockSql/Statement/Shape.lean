/-
# Shapes of statements

A statement is recognised by its shape: keywords in a fixed order around names, lists and literals.
A shape either does not match a text, or it does; a text that matches is usually a statement, but
its literals may be unreadable, or the shape may find nothing to build a statement from.
-/

import MockSql.Statement
import MockSql.Text.Scan

namespace MockSql

/-- What a matching shape makes of a text. -/
inductive Reading where
  | statement (statement : Statement)
  /-- The text matches, but there is no statement in it. -/
  | declined
  /-- The text matches, but one of its literals cannot be read. -/
  | unreadable (fault : Fault)
deriving DecidableEq, Repr

/-- A shape reads the trimmed text of a statement, if the text matches. -/
abbrev Shape := List Char → Option Reading

namespace Reading

/-- The reading of a statement whose literals may be unreadable. -/
def ofExcept : Except Fault Statement → Reading
  | .ok result => .statement result
  | .error fault => .unreadable fault

end Reading

namespace Shape

open MockSql.Text

/-- A text that is used up. -/
def atEnd? (text : List Char) : Option Unit :=
  if text.isEmpty then some () else none

/-- A phrase and nothing else. -/
def phrase (words : List String) (statement : Statement) : Shape := fun text =>
  ((afterPhrase? words text).bind atEnd?).map fun _ => .statement statement

/-- A phrase, a name and nothing else. -/
def phraseAndName (words : List String) (build : String → Statement) : Shape := fun text => do
  let (name, rest) ← (afterPhrase? words text).bind takeSpacedName?
  atEnd? rest
  some (.statement (build name))

end Shape

end MockSql
