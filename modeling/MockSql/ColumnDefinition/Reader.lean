/-
# Reading the body of a table definition

The body is cut into fragments at commas, a comma inside parentheses excepted. A fragment that
begins like a table-level clause is one; any other fragment is a column if it begins with a name
and a type, and is skipped if not. Clauses of a column are looked for anywhere after its type, and
the table-level clauses are applied when all columns are known.
-/

import MockSql.ColumnDefinition
import MockSql.Text.Case.Upper
import MockSql.Text.Scan

namespace MockSql.ColumnDefinition

open MockSql.Text

/-- Whether a comma before this text is inside parentheses: the next parenthesis closes. -/
def closesNext (text : List Char) : Bool :=
  match text.find? fun c => c == '(' || c == ')' with
  | some c => c == ')'
  | none => false

/-- The pieces of a body between the commas that separate definitions; never empty. -/
def cutBody : List Char → List (List Char)
  | [] => [[]]
  | c :: rest =>
    if c == ',' && !closesNext rest then [] :: cutBody rest
    else
      match cutBody rest with
      | [] => [[c]]
      | piece :: pieces => (c :: piece) :: pieces

/-- The fragments of a body: its pieces, trimmed, without the blank ones. -/
def fragments (body : List Char) : List (List Char) :=
  ((cutBody body).map trim).filter (!·.isEmpty)

/-- What follows a keyword that is not the beginning of a longer word. -/
def afterWhole? (words : List String) (text : List Char) : Option (List Char) :=
  (afterPhrase? words text).filter fun rest => !startsWithWord rest

/-- Whether a fragment is a table-level clause. -/
def isTableClause (fragment : List Char) : Bool :=
  (afterPhrase? ["primary", "key"] fragment).isSome ||
  (afterWhole? ["unique", "key"] fragment).isSome ||
  (afterWhole? ["unique", "index"] fragment).isSome ||
  ((afterPhrase? ["unique"] fragment).bind fun rest => afterChar? '(' (trimStart rest)).isSome ||
  (afterWhole? ["key"] fragment).isSome ||
  (afterWhole? ["index"] fragment).isSome ||
  (afterWhole? ["constraint"] fragment).isSome ||
  (afterPhrase? ["foreign", "key"] fragment).isSome

/-- What a text holds before a rest of it. -/
def textBefore (text rest : List Char) : String :=
  String.ofList (text.take (text.length - rest.length))

/-- A type with an optional bracketed part, and what follows it. -/
def takeType? (text : List Char) : Option (String × List Char) :=
  (takeRun? isWord text).map fun (_, afterWord) =>
    let rest :=
      skipOptional (fun after => (takeBracketed? (trimStart after)).map Prod.snd) afterWord
    (textBefore text rest, rest)

/-- A column's type, which may be unsigned, and what follows it. -/
def takeColumnType? (text : List Char) : Option (String × List Char) :=
  (takeType? text).map fun (_, afterType) =>
    let rest := skipOptional (fun after => (afterBlanks? after).bind (afterPhrase? ["unsigned"]))
      afterType
    (textBefore text rest, rest)

/-- The text of a default: what stands between single quotes, or a run without white space. -/
def takeDefault? (text : List Char) : Option (List Char × Bool) :=
  (afterQuote? text).or ((takeRun? (!isBlank ·) text).map fun (run, _) => (run, false))
where
  afterQuote? (text : List Char) : Option (List Char × Bool) := do
    let inside ← afterChar? '\x27' text
    let _ ← afterChar? '\x27' (inside.dropWhile (· != '\x27'))
    some (inside.takeWhile (· != '\x27'), true)

/-- The default that the clauses give; a bare `NULL` gives none. -/
def default? (clauses : List Char) : Option String :=
  match findWord? (fun text =>
      ((afterPhrase? ["default"] text).bind afterBlanks?).bind takeDefault?) clauses with
  | none => none
  | some (content, quoted) =>
    if !quoted && upper content == "NULL".toList then none else some (String.ofList content)

/-- The reference that a clause makes. -/
def reference? (clause : List Char) : Option Reference :=
  findWord? (fun text => do
    let (table, afterTable) ← (afterPhrase? ["references"] text).bind takeSpacedName?
    let inside ← afterChar? '(' (trimStart afterTable)
    let (column, _) ← takeName? (trimStart inside)
    some ⟨table, column⟩) clause

/-- The column that a table-level primary key names first. -/
def primaryName? (body : List Char) : Option String :=
  (findAnywhere? (fun text =>
    (afterPhrase? ["primary", "key"] text).bind (takeBracketed? ∘ trimStart)) body).bind
  fun (inside, _) =>
    match (inside.splitOn ',').map bareName with
    | [] | [] :: _ => none
    | name :: _ => some (String.ofList name)

/-- The column that a fragment defines. A column that wants to be the primary key is not if the
table has one already. -/
def readColumn? (primaryName : Option String) (hasPrimary : Bool) (fragment : List Char) :
    Option ColumnDefinition := do
  let (name, afterName) ← takeName? fragment
  let (type, clauses) ← (afterBlanks? afterName).bind takeColumnType?
  let wantsPrimary := some name == primaryName || hasPhrase ["primary", "key"] clauses
  some {
    name, type
    nullable := !hasPhrase ["not", "null"] clauses
    key :=
      if wantsPrimary && !hasPrimary then .primary
      else if hasPhrase ["unique"] clauses then .unique
      else .none
    default := default? clauses
    autoIncrement := hasPhrase ["auto_increment"] clauses
    reference := reference? clauses }

/-- Whether one of the columns is the primary key. -/
def haveKey (columns : List ColumnDefinition) : Bool :=
  columns.any (·.key == .primary)

/-- The columns so far, with the one of a further fragment. -/
def addFragment (primaryName : Option String) (columns : List ColumnDefinition)
    (fragment : List Char) : List ColumnDefinition :=
  match readColumn? primaryName (haveKey columns) fragment with
  | some column => columns ++ [column]
  | none => columns

/-- The column that a table-level clause is about: the first name after a parenthesis. -/
def clauseTarget? (clause : List Char) : Option String :=
  findAnywhere? (fun text =>
    (afterChar? '(' text).bind fun inside => (takeName? (trimStart inside)).map Prod.fst) clause

/-- Whether a text, which is in upper case, holds words as they are. -/
def hasCapitals (words : List String) (text : List Char) : Bool :=
  (findWord? (fun rest => (afterCapitals words rest).filter fun after => !startsWithWord after)
    text).isSome
where
  afterCapitals : List String → List Char → Option (List Char)
    | [], rest => some rest
    | word :: words, rest =>
      if word.toList.isPrefixOf rest then
        let after := rest.drop word.length
        if words.isEmpty then some after else (afterBlanks? after).bind (afterCapitals words)
      else none

/-- What a table-level clause does to the column that it is about. -/
def applyClause (clause : List Char) (column : ColumnDefinition) : ColumnDefinition :=
  let capitals := upper clause
  if column.key == .primary then column
  else if hasCapitals ["FOREIGN", "KEY"] capitals then
    { column with
      reference := (reference? clause).or column.reference
      key := if column.key == .none then .multiple else column.key }
  else if hasCapitals ["UNIQUE"] capitals then { column with key := .unique }
  else { column with key := if column.key == .none then .multiple else column.key }

/-- Changes the last column of a name. -/
def modifyLast (name : String) (change : ColumnDefinition → ColumnDefinition) :
    List ColumnDefinition → List ColumnDefinition
  | [] => []
  | column :: rest =>
    if column.name == name && !rest.any (·.name == name) then change column :: rest
    else column :: modifyLast name change rest

/-- The columns after a table-level clause. -/
def addClause (columns : List ColumnDefinition) (clause : List Char) : List ColumnDefinition :=
  match clauseTarget? clause with
  | some name => modifyLast name (applyClause clause) columns
  | none => columns

/-- The columns that the body of a table definition defines. -/
def readBody (body : List Char) : List ColumnDefinition :=
  let (clauses, columns) := (fragments body).partition isTableClause
  clauses.foldl addClause (columns.foldl (addFragment (primaryName? body)) [])

end MockSql.ColumnDefinition
