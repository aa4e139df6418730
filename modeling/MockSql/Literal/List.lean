/-
# Lists of literals

A value list is cut at the commas outside quotes and parentheses, and the group that holds it ends
where its own parenthesis closes. Both scans keep the same two facts about the characters read so
far: which quote is open, and how many parentheses are.
-/

import MockSql.Literal

namespace MockSql.Literal

open MockSql.Text

/-- Which quote is open, and how many more parentheses have been opened than closed. -/
structure Nesting where
  quote : Option Char
  depth : Int
deriving DecidableEq, Repr

namespace Nesting

/-- Neither a quote nor a parenthesis is open. -/
def outside : Nesting := ⟨none, 0⟩

/-- The nesting after one more character. Inside a quote only that quote counts. -/
def step (nesting : Nesting) (c : Char) : Nesting :=
  match nesting.quote with
  | some quote => if c == quote then { nesting with quote := none } else nesting
  | none =>
    if isQuote c then { nesting with quote := some c }
    else if c == '(' then { nesting with depth := nesting.depth + 1 }
    else if c == ')' then { nesting with depth := nesting.depth - 1 }
    else nesting

/-- Whether no quote is open, so that a comma or a parenthesis counts. -/
def isBare (nesting : Nesting) : Bool :=
  nesting.quote.isNone

end Nesting

/-- The pieces of a value list that begin with the characters of `current`, latest first. -/
def splitFrom (nesting : Nesting) (current : List Char) : List Char → List (List Char)
  | [] =>
    let last := trim current.reverse
    if last.isEmpty then [] else [last]
  | c :: rest =>
    if c == ',' && nesting.isBare && nesting.depth == 0 then
      trim current.reverse :: splitFrom nesting [] rest
    else splitFrom (nesting.step c) (c :: current) rest

/-- The pieces of a value list, trimmed. A blank piece counts unless it is the last. -/
def splitValues (text : List Char) : List (List Char) :=
  splitFrom .outside [] text

/-- What stands before the parenthesis that closes the last open one. -/
def bodyFrom? (nesting : Nesting) : List Char → Option (List Char)
  | [] => none
  | c :: rest =>
    let next := nesting.step c
    if c == ')' && nesting.isBare && next.depth == 0 then some []
    else (bodyFrom? next rest).map (c :: ·)

/-- The inside of the parenthesised group that a text begins with, after white space. -/
def leadingGroup? (text : List Char) : Option (List Char) :=
  (afterOpening (trimStart text)).bind (bodyFrom? ⟨none, 1⟩)
where
  afterOpening : List Char → Option (List Char)
    | '(' :: rest => some rest
    | _ => none

end MockSql.Literal
