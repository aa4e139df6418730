/-
# The shapes that read and write rows

A selection looks for its clauses anywhere in the statement. An insertion takes the first group of
its value lists. An update takes the last place where a predicate can begin, so that everything
before it is assignments. A deletion lists ids.
-/

import MockSql.Literal.List
import MockSql.Statement.Shape
import MockSql.Text.Case.Lower

namespace MockSql.Shape

open MockSql.Text MockSql.Literal

/-- The table that a selection reads from. -/
def source? (text : List Char) : Option String :=
  findWord? (fun rest => ((afterPhrase? ["from"] rest).bind takeSpacedName?).map Prod.fst) text

/-- The word of a direction, unless it is the beginning of a longer one. -/
def takeDirection? (text : List Char) : Option (List Char) := do
  let rest ← afterBlanks? text
  let after ← (afterPhrase? ["asc"] rest).or (afterPhrase? ["desc"] rest)
  if startsWithWord after then none else some (rest.take (rest.length - after.length))

/-- The order that a selection asks for. The rows descend if the direction, in lower case, is the
word for it. -/
def ordering? (text : List Char) : Option Ordering :=
  findWord? (fun rest => do
    let (column, rest) ← (afterPhrase? ["order", "by"] rest).bind takeSpacedName?
    some ⟨column, (takeDirection? rest).any fun word => lower word == "desc".toList⟩) text

/-- Digits after a keyword, and what follows them. -/
def takeCount? (word : String) (text : List Char) : Option (List Char × List Char) :=
  ((afterPhrase? [word] text).bind afterBlanks?).bind (takeRun? isDigit)

/-- A second count after a comma. -/
def takeSecondCount? (text : List Char) : Option (List Char) :=
  ((afterChar? ',' (trimStart text)).bind fun rest => takeRun? isDigit (trimStart rest)).map
    Prod.fst

/-- The part of the rows that a selection asks for: a limit and an offset. The offset stands before
the limit's comma or after its own keyword. -/
def readPage (text : List Char) : Except Fault (Option Nat × Nat) :=
  match findWord? (takeCount? "limit") text with
  | none => .ok (none, 0)
  | some (first, rest) =>
    match takeSecondCount? rest with
    | some second => do
      let offset ← readInt false first
      let limit ← readInt false second
      .ok (some limit.toNat, offset.toNat)
    | none => do
      let limit ← readInt false first
      match findWord? (takeCount? "offset") text with
      | some (digits, _) => do
        let offset ← readInt false digits
        .ok (some limit.toNat, offset.toNat)
      | none => .ok (some limit.toNat, 0)

/-- `SELECT …` -/
def select : Shape := fun text => do
  let rest ← afterPhrase? ["select"] text
  if startsWithWord rest then none
  else some (.ofExcept do
    let (limit, offset) ← readPage text
    .ok (.select { source := source? text, ordering := ordering? text, limit, offset }))

/-- The column list of an insertion, if there is one, and what follows it. -/
def takeColumns? (text : List Char) : Option (Option (List Char) × List Char) :=
  match trimStart text with
  | '(' :: _ => (takeBracketed? (trimStart text)).map fun (inside, rest) => (some inside, rest)
  | rest => some (none, rest)

/-- The value lists of an insertion: all that follows the keyword, from a parenthesis to one. -/
def takeGroups? (text : List Char) : Option (List Char) :=
  ((afterPhrase? ["values"] (trimStart text)).map trimStart).filter fun rest =>
    rest.head? == some '(' && rest.getLast? == some ')'

/-- The name of the table, if it is run together with the keyword, and what follows its name. -/
def splitTable? (run after : List Char) : Option (List Char × List Char) :=
  let table := run.take (run.length - 6)
  if 6 < run.length && (afterPhrase? ["values"] (run.drop (run.length - 6))).isSome then
    some (table, run.drop (run.length - 6) ++ after)
  else none

/-- The parts of an insertion: the table, the column list and the value lists. -/
def takeInsertion? (text : List Char) : Option (List Char × Option (List Char) × List Char) := do
  let rest ← (afterPhrase? ["insert", "into"] text).bind afterBlanks?
  let (run, after) ← takeRun? isWord (skipChar nameMark rest)
  (listed run after).or (runTogether run after)
where
  listed (run after : List Char) := do
    let (columns, rest) ← takeColumns? (skipChar nameMark after)
    let groups ← takeGroups? rest
    some (run, columns, groups)
  runTogether (run after : List Char) := do
    let (table, rest) ← splitTable? run after
    let groups ← takeGroups? rest
    some (table, none, groups)

/-- The names of a column list; blank ones do not count. -/
def columnNames (list : List Char) : List String :=
  ((list.splitOn ',').filter fun name => !(trim name).isEmpty).map fun name =>
    String.ofList (bareName name)

/-- `INSERT INTO name (columns) VALUES (values), …` -/
def insert : Shape := fun text => do
  let (table, columns, groups) ← takeInsertion? text
  some (match leadingGroup? groups with
    | none => .declined
    | some body => .ofExcept do
      let values ← (splitValues body).mapM readInserted
      .ok (.insert ⟨String.ofList table, columns.map columnNames, values⟩))

/-- A predicate `WHERE column = literal` after white space, up to the end of the text. -/
def takePredicate? (text : List Char) : Option (String × List Char) := do
  let (column, rest) ← ((afterBlanks? text).bind (afterPhrase? ["where"])).bind takeSpacedName?
  let literal ← (afterChar? '=' (trimStart rest)).map trimStart
  if literal.isEmpty then none else some (column, literal)

/-- A text cut at the last place where a predicate begins. -/
def cutAtPredicate? : List Char → Option (List Char × String × List Char)
  | [] => none
  | c :: rest =>
    match cutAtPredicate? rest with
    | some (before, predicate) => some (c :: before, predicate)
    | none => (takePredicate? (c :: rest)).map fun predicate => ([], predicate)

/-- The assignments of an update and its predicate. There is at least one character of assignments,
so of white space before them only what is left counts as a separator. -/
def takeAssignments? : List Char → Option (List Char × String × List Char)
  | [] => none
  | c :: rest =>
    if isBlank c then
      (takeAssignments? rest).or (cutAfterOne? rest)
    else none
where
  cutAfterOne? : List Char → Option (List Char × String × List Char)
    | [] => none
    | c :: rest =>
      (cutAtPredicate? rest).map fun (before, predicate) => (c :: before, predicate)

/-- The column and the literal of an assignment; a clause without an equals sign is none. -/
def splitAssignment? (clause : List Char) : Option (String × List Char) :=
  (afterChar? '=' (clause.dropWhile (· != '='))).map fun literal =>
    (String.ofList (bareName (clause.takeWhile (· != '='))), literal)

/-- The assignments of a list; a column that is named twice keeps its place. -/
def readAssignments (list : List Char) : Except Fault Row := do
  let cells ← ((splitValues list).filterMap splitAssignment?).mapM fun (column, literal) =>
    (readAssigned literal).map (column, ·)
  .ok (Entries.setAll [] cells)

/-- `UPDATE name SET assignments WHERE column = literal` -/
def update : Shape := fun text => do
  let (table, rest) ← (afterPhrase? ["update"] text).bind takeSpacedName?
  let rest ← (afterBlanks? rest).bind (afterPhrase? ["set"])
  let (list, column, literal) ← takeAssignments? rest
  some (.ofExcept do
    let assignments ← readAssignments list
    let value ← readAssigned literal
    .ok (.update ⟨table, assignments, column, value⟩))

/-- The ids of a list: the integers that its items begin with. -/
def readIds (list : List Char) : Except Fault (List Int) := do
  let ids ← (list.splitOn ',').mapM fun item => leadingInt (unquote item).1
  .ok (ids.filterMap id)

/-- `DELETE FROM name WHERE column IN (ids)` -/
def delete : Shape := fun text => do
  let (table, rest) ← (afterPhrase? ["delete", "from"] text).bind takeSpacedName?
  let (column, rest) ← ((afterBlanks? rest).bind (afterPhrase? ["where"])).bind takeSpacedName?
  let (list, rest) ←
    ((afterBlanks? rest).bind (afterPhrase? ["in"])).bind (takeBracketed? ∘ trimStart)
  atEnd? rest
  some (.ofExcept do
    let ids ← readIds list
    .ok (.delete ⟨table, column, ids⟩))

end MockSql.Shape
