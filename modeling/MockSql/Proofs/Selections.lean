/-
# Selections written out

A selection names its table, then perhaps an order, then perhaps a part of the rows. Each clause is
looked for on its own, anywhere in the text, and has to be found at its own keyword even if the
table or the column is called like one. No other word begins inside a word, and a clause goes on
behind its keyword with something that does not stand behind a name: so the search passes over
names, and what is read is what was written. The answer is a part of the table's rows in the order
that is asked for.
-/

import MockSql.Proofs.ColumnNames
import MockSql.Proofs.FixedShapes
import MockSql.Proofs.Frames

namespace MockSql

open MockSql.Text MockSql.Number

namespace Text

section Search

variable {α : Type} {recognise : List Char → Option α} {run rest : List Char}

/-- Nothing is found inside a word. -/
theorem findFrom?_inside (hrun : ∀ c ∈ run, isWord c = true) :
    findFrom? recognise true (run ++ rest) = findFrom? recognise true rest := by
  induction run with
  | nil => rfl
  | cons c run ih =>
      rw [List.cons_append, findFrom?, hrun c List.mem_cons_self]
      exact ih fun d hd => hrun d (List.mem_cons_of_mem _ hd)

/-- A search goes past a word if nothing is recognised where the word begins. -/
theorem findFrom?_run (hrun : ∀ c ∈ run, isWord c = true) (hne : run ≠ [])
    (hnone : recognise (run ++ rest) = none) :
    findFrom? recognise false (run ++ rest) = findFrom? recognise true rest := by
  cases run with
  | nil => exact absurd rfl hne
  | cons c run =>
      rw [List.cons_append] at hnone ⊢
      rw [findFrom?, hrun c List.mem_cons_self]
      simp only [Bool.false_eq_true, if_false, hnone, Option.none_or]
      exact findFrom?_inside fun d hd => hrun d (List.mem_cons_of_mem _ hd)

/-- Nothing else is looked for where something is found. -/
theorem findFrom?_of_eq_some {text : List Char} {found : α} (h : recognise text = some found) :
    findFrom? recognise false text = some found := by
  cases text with
  | nil => exact h
  | cons c text =>
      rw [findFrom?, h]
      rfl

end Search

/-- A clause: a keyword, white space, and what the clause goes on with. -/
def clause? {α : Type} (word : String) (more : List Char → Option α) (text : List Char) : Option α :=
  ((afterKeyword? word.toList text).bind afterBlanks?).bind more

/-- Whether a text departs from a word before either ends. -/
def departs : List Char → List Char → Bool
  | letter :: word, c :: text => !isLetter letter c || departs word text
  | _, _ => false

theorem afterKeyword?_of_departs {word text : List Char} (h : departs word text = true)
    (rest : List Char) : afterKeyword? word (text ++ rest) = none := by
  induction word generalizing text with
  | nil => cases h
  | cons letter word ih =>
      cases text with
      | nil => cases h
      | cons c text =>
          rw [List.cons_append, afterKeyword?]
          split
          next hletter =>
            rw [departs, hletter] at h
            exact ih h
          next => rfl

/-- Whether a word character stands at the end of a text in which a keyword begins nowhere, whatever
stands behind the text; the flag says whether one stands before it. -/
def passed? (word : List Char) : Bool → List Char → Option Bool
  | before, [] => some before
  | before, c :: text =>
    if before || departs word (c :: text) then passed? word (isWord c) text else none

section Clause

variable {α : Type} {word : String} {more : List Char → Option α} {run rest : List Char}

/-- No clause begins with a word behind which it could not go on, be the word its keyword or not. -/
theorem clause?_run (isKeyword : IsKeyword word) (hrun : ∀ c ∈ run, isWord c = true)
    (hhead : ∀ c ∈ rest.head?, isWord c = false) (hmore : (afterBlanks? rest).bind more = none) :
    clause? word more (run ++ rest) = none := by
  cases hafter : afterKeyword? word.toList (run ++ rest) with
  | none => rw [clause?, hafter, Option.bind_none, Option.bind_none]
  | some after =>
      obtain ⟨spelled, htext, spells⟩ := afterKeyword?_eq_some_iff.mp hafter
      rw [clause?, hafter, Option.bind_some]
      rcases List.append_eq_append_iff.mp htext with ⟨middle, rfl, rfl⟩ | ⟨middle, rfl, rfl⟩
      · cases middle with
        | nil => exact hmore
        | cons c middle =>
            have hword := Spells.isWord isKeyword.2 spells c (by simp)
            rw [hhead c rfl] at hword
            cases hword
      · cases middle with
        | nil => exact hmore
        | cons c middle =>
            have hblank : isBlank c = false := not_isBlank_of_isWord (hrun c (by simp))
            rw [List.cons_append, afterBlanks?, hblank]
            rfl

/-- A search for a clause goes past a word behind which the clause could not go on. -/
theorem findFrom?_clause (isKeyword : IsKeyword word) (hrun : ∀ c ∈ run, isWord c = true)
    (hne : run ≠ []) (hhead : ∀ c ∈ rest.head?, isWord c = false)
    (hmore : (afterBlanks? rest).bind more = none) :
    findFrom? (clause? word more) false (run ++ rest) =
      findFrom? (clause? word more) true rest :=
  findFrom?_run hrun hne (clause?_run isKeyword hrun hhead hmore)

/-- A search for a clause passes over a text in which no keyword can begin. -/
theorem findFrom?_passed {text : List Char} {before after : Bool}
    (h : passed? word.toList before text = some after) (rest : List Char) :
    findFrom? (clause? word more) before (text ++ rest) =
      findFrom? (clause? word more) after rest := by
  induction text generalizing before with
  | nil =>
      cases h
      rfl
  | cons c text ih =>
      rw [passed?] at h
      split at h
      next hpassed =>
        have hnone : (if before then none else clause? word more (c :: (text ++ rest))) = none := by
          cases before with
          | true => rfl
          | false =>
              have hkeyword := afterKeyword?_of_departs hpassed rest
              rw [List.cons_append] at hkeyword
              rw [clause?, hkeyword]
              rfl
        rw [List.cons_append, findFrom?, hnone, ih h]
        rfl
      next => cases h

end Clause

end Text

/-! ## Writing selections -/

namespace Clause

/-- What stands before the table. -/
def selectFrom : List Char := "SELECT * FROM ".toList

/-- What stands before the column of an order. -/
def orderBy : List Char := " ORDER BY ".toList

/-- What stands before the first number of a part. -/
def limit : List Char := " LIMIT ".toList

/-- What stands before an offset that comes last. -/
def offset : List Char := " OFFSET ".toList

/-- What stands between an offset that comes first and the limit. -/
def comma : List Char := ", ".toList

end Clause

/-- The direction of an order. -/
inductive Direction where
  | ascending
  | descending
deriving DecidableEq, Repr

/-- The word for a direction. -/
def Direction.word : Direction → String
  | ascending => "ASC"
  | descending => "DESC"

/-- An order as it is written: a column, and a direction that may be left out. -/
structure OrderClause where
  column : String
  direction : Option Direction
deriving DecidableEq, Repr

namespace OrderClause

/-- The direction behind the column. -/
def writeDirection (clause : OrderClause) : List Char :=
  match clause.direction with
  | none => []
  | some direction => ' ' :: direction.word.toList

/-- The characters of an order. -/
def write (clause : OrderClause) : List Char :=
  Clause.orderBy ++ (clause.column.toList ++ clause.writeDirection)

theorem write_append (clause : OrderClause) (rest : List Char) :
    clause.write ++ rest =
      Clause.orderBy ++ (clause.column.toList ++ (clause.writeDirection ++ rest)) := by
  rw [write, List.append_assoc, List.append_assoc]

/-- The order that is meant; it ascends unless it is said to descend. -/
def meaning (clause : OrderClause) : Ordering :=
  ⟨clause.column, clause.direction == some .descending⟩

end OrderClause

/-- A part of the rows as it is written: all of them, or a number of them behind an offset, which
stands behind its own keyword or before a comma. -/
inductive PageClause where
  | all
  | limitOffset (limit offset : Nat)
  | offsetComma (offset limit : Nat)
deriving DecidableEq, Repr

namespace PageClause

/-- The characters of a part. -/
def write : PageClause → List Char
  | all => []
  | limitOffset limit offset =>
    Clause.limit ++ (natDigits limit ++ (Clause.offset ++ natDigits offset))
  | offsetComma offset limit =>
    Clause.limit ++ (natDigits offset ++ (Clause.comma ++ natDigits limit))

/-- The limit and the offset that are meant. -/
def meaning : PageClause → Option Nat × Nat
  | all => (none, 0)
  | limitOffset limit offset => (some limit, offset)
  | offsetComma offset limit => (some limit, offset)

/-- The numbers of a part have few enough digits to be read. -/
def IsReadable : PageClause → Prop
  | all => True
  | limitOffset limit offset => isPrintable limit = true ∧ isPrintable offset = true
  | offsetComma offset limit => isPrintable limit = true ∧ isPrintable offset = true

end PageClause

/-- The characters of a selection. -/
def selectionChars (table : String) (order : Option OrderClause) (page : PageClause) : List Char :=
  Clause.selectFrom ++ (table.toList ++
    (order.elim [] OrderClause.write ++ page.write))

/-- A selection from a table, perhaps with an order, of all rows or a part of them. -/
def selectionText (table : String) (order : Option OrderClause) (page : PageClause) : String :=
  String.ofList (selectionChars table order page)

/-- The selection that is meant. -/
def selectionOf (table : String) (order : Option OrderClause) (page : PageClause) : Selection where
  source := some table
  ordering := order.map OrderClause.meaning
  limit := page.meaning.1
  offset := page.meaning.2

/-- What stands behind the table or the column of a selection: nothing, or a space and a word that
begins with one of four letters. -/
def IsBehindName (text : List Char) : Prop :=
  text = [] ∨ ∃ c ∈ "OLAD".toList, ∃ rest, text = ' ' :: c :: rest

namespace IsBehindName

variable {text : List Char}

theorem head (behind : IsBehindName text) :
    ∀ c ∈ text.head?, isWord c = false ∧ c ≠ nameMark := by
  rcases behind with rfl | ⟨letter, -, rest, rfl⟩
  · simp
  · rintro c ⟨⟩
    decide +kernel

/-- No clause goes on here with something that begins with none of the four letters. -/
theorem bind_eq_none {α : Type} {more : List Char → Option α} (behind : IsBehindName text)
    (hmore : ∀ c ∈ "OLAD".toList, ∀ rest, more (c :: rest) = none) :
    (afterBlanks? text).bind more = none := by
  have hletters : ∀ c ∈ "OLAD".toList, isBlank c = false := forall_mem_of_all (by decide +kernel)
  rcases behind with rfl | ⟨letter, hletter, rest, rfl⟩
  · rfl
  · have hspace : isBlank ' ' = true := by decide
    have htrim : trimStart (letter :: rest) = letter :: rest :=
      dropWhile_eq_self fun c hc => by
        cases hc
        exact hletters letter hletter
    rw [afterBlanks?, hspace, if_pos rfl, htrim, Option.bind_some]
    exact hmore letter hletter rest

end IsBehindName

/-- A name behind a space is taken up to what stands behind names. -/
theorem IsName.takeSpacedName?_behind {name : String} {rest : List Char} (isName : IsName name)
    (behind : IsBehindName rest) :
    Text.takeSpacedName? (' ' :: (name.toList ++ rest)) = some (name, rest) := by
  have hblanks : afterBlanks? (' ' :: (name.toList ++ rest)) =
      some (trimStart (name.toList ++ rest)) := rfl
  rw [Text.takeSpacedName?, hblanks, isName.trimStart_append, Option.bind_some]
  exact takeName?_append ⟨isName, [], by simp, [], by simp, by simp⟩ behind.head

theorem PageClause.isBehindName (page : PageClause) : IsBehindName page.write := by
  cases page with
  | all => exact .inl rfl
  | limitOffset | offsetComma => exact .inr ⟨'L', by decide, _, rfl⟩

theorem OrderClause.isBehindName_direction (clause : OrderClause) (page : PageClause) :
    IsBehindName (clause.writeDirection ++ page.write) := by
  unfold writeDirection
  cases clause.direction with
  | none => exact page.isBehindName
  | some direction =>
      cases direction with
      | ascending => exact .inr ⟨'A', by decide, _, rfl⟩
      | descending => exact .inr ⟨'D', by decide, _, rfl⟩

theorem isBehindName_clauses (order : Option OrderClause) (page : PageClause) :
    IsBehindName (order.elim [] OrderClause.write ++ page.write) := by
  cases order with
  | none => exact page.isBehindName
  | some clause => exact .inr ⟨'O', by decide, _, rfl⟩

theorem isWord_of_mem_natDigits {n : Nat} {c : Char} (hc : c ∈ natDigits n) : isWord c = true := by
  have hdigits : ∀ c ∈ asciiDigits, isWord c = true := forall_mem_of_all (by decide)
  exact hdigits c (mem_asciiDigits_of_mem_natDigits hc)

theorem trimStart_natDigits (n : Nat) (rest : List Char) :
    trimStart (natDigits n ++ rest) = natDigits n ++ rest := by
  apply dropWhile_eq_self
  intro c hc
  cases hdigits : natDigits n with
  | nil => exact absurd hdigits Nat.toDigits_ne_nil
  | cons first later =>
      rw [hdigits] at hc
      cases hc
      exact not_isBlank_of_isWord (isWord_of_mem_natDigits (hdigits ▸ List.mem_cons_self))

/-- The digits of a number are taken if no digit stands behind them. -/
theorem takeRun?_natDigits (n : Nat) {rest : List Char} (hrest : ∀ c ∈ rest.head?, isDigit c = false) :
    takeRun? isDigit (natDigits n ++ rest) = some (natDigits n, rest) :=
  takeRun?_append (fun _ hc => isDigit_of_mem_natDigits hc) Nat.toDigits_ne_nil hrest

/-- A number with few enough digits is read as itself. -/
theorem readInt_natDigits {n : Nat} (printable : isPrintable n = true) :
    Literal.readInt false (natDigits n) = .ok (n : Int) := by
  have hsign : decide ((n : Int) < 0) = false := by simp
  exact hsign ▸ Literal.readInt_natDigits printable

/-! ## Reading the clauses -/

namespace Shape

variable {table : String} {order : Option OrderClause} {page : PageClause}

theorem takeCount?_eq (word : String) : takeCount? word = clause? word (takeRun? isDigit) :=
  rfl

/-- What an order goes on with behind its first keyword. -/
def orderedColumn? (text : List Char) : Option Ordering :=
  ((afterKeyword? "by".toList text).bind takeSpacedName?).map fun (column, rest) =>
    ⟨column, (takeDirection? rest).any fun word => lower word == "desc".toList⟩

theorem ordering?_eq (text : List Char) :
    ordering? text = findWord? (clause? "order" orderedColumn?) text := by
  have hrecognise : (fun rest => do
      let (column, rest) ← (afterPhrase? ["order", "by"] rest).bind takeSpacedName?
      some (⟨column, (takeDirection? rest).any fun word => lower word == "desc".toList⟩ : Ordering)) =
      clause? "order" orderedColumn? := by
    funext rest
    simp only [clause?, afterPhrase?, Option.bind_eq_bind]
    cases (afterKeyword? "order".toList rest).bind afterBlanks? with
    | none => rfl
    | some spaced =>
        rw [Option.bind_some, Option.bind_some, orderedColumn?, Option.map_eq_bind]
        rfl
  rw [ordering?, hrecognise]

/-- A count does not go on with a letter, and an order not with another keyword than its own. -/
theorem takeRun?_letter : ∀ c ∈ "OLAD".toList, ∀ rest, takeRun? isDigit (c :: rest) = none := by
  have hletters : ∀ c ∈ "OLAD".toList, isDigit c = false := forall_mem_of_all (by decide +kernel)
  intro c hc rest
  simp [takeRun?, hletters c hc]

theorem orderedColumn?_letter : ∀ c ∈ "OLAD".toList, ∀ rest, orderedColumn? (c :: rest) = none := by
  have hletters : ∀ c ∈ "OLAD".toList, isLetter 'b' c = false := forall_mem_of_all (by decide)
  intro c hc rest
  have hby : afterKeyword? "by".toList (c :: rest) = none := by
    have hword : "by".toList = ['b', 'y'] := rfl
    rw [hword, afterKeyword?, hletters c hc]
    rfl
  rw [orderedColumn?, hby]
  rfl

/-- The table is the name behind its keyword. -/
theorem source?_selectionChars (isName : IsName table) :
    source? (selectionChars table order page) = some table := by
  let clauses := order.elim [] OrderClause.write ++ page.write
  have hfound : source? (selectionChars table order page) =
      ((takeSpacedName? (' ' :: (table.toList ++ clauses))).map Prod.fst).or
        (findFrom? (fun rest => ((afterPhrase? ["from"] rest).bind takeSpacedName?).map Prod.fst)
          true ("ROM ".toList ++ (table.toList ++ clauses))) := rfl
  rw [hfound, isName.takeSpacedName?_behind (isBehindName_clauses order page)]
  rfl

/-- The word for a direction is taken if it is not the beginning of a longer one. -/
theorem takeDirection?_word (direction : Direction) {rest : List Char}
    (hrest : startsWithWord rest = false) :
    takeDirection? (' ' :: (direction.word.toList ++ rest)) = some direction.word.toList := by
  have htaken : takeDirection? (' ' :: (direction.word.toList ++ rest)) =
      if startsWithWord rest then none else
        some ((direction.word.toList ++ rest).take
          ((direction.word.toList ++ rest).length - rest.length)) := by
    cases direction <;> rfl
  rw [htaken, hrest, List.length_append, Nat.add_sub_cancel, List.take_left]
  rfl

/-- The rows descend if the word behind the column says so. -/
theorem takeDirection?_clause (clause : OrderClause) (page : PageClause) :
    (takeDirection? (clause.writeDirection ++ page.write)).any (lower · == "desc".toList) =
      clause.meaning.descending := by
  have hstart : startsWithWord page.write = false := by
    have hhead := page.isBehindName.head
    cases hpage : page.write with
    | nil => rfl
    | cons c rest => exact (hhead c (by rw [hpage]; rfl)).1
  have hwords (direction : Direction) :
      (lower direction.word.toList == "desc".toList) =
        (some direction == some Direction.descending) := by
    cases direction <;> decide +kernel
  unfold OrderClause.writeDirection OrderClause.meaning
  cases clause.direction with
  | none => cases page <;> rfl
  | some direction =>
      rw [List.cons_append, takeDirection?_word direction hstart, Option.any_some, hwords]

/-- A search for an order goes past digits. -/
theorem findOrder?_natDigits (n : Nat) {rest : List Char}
    (hhead : ∀ c ∈ rest.head?, isWord c = false)
    (hmore : (afterBlanks? rest).bind orderedColumn? = none) :
    findFrom? (clause? "order" orderedColumn?) false (natDigits n ++ rest) =
      findFrom? (clause? "order" orderedColumn?) true rest :=
  findFrom?_clause (by decide) (fun c hc => isWord_of_mem_natDigits hc) Nat.toDigits_ne_nil hhead
    hmore

/-- No order is found in the part of a selection that is about its rows. -/
theorem findOrder?_page (page : PageClause) :
    findFrom? (clause? "order" orderedColumn?) true page.write = none := by
  have hlimit : passed? "order".toList true Clause.limit = some false := by decide +kernel
  have hoffset : passed? "order".toList true Clause.offset = some false := by decide +kernel
  have hcomma : passed? "order".toList true Clause.comma = some false := by decide +kernel
  have hlast (n : Nat) : findFrom? (clause? "order" orderedColumn?) false (natDigits n) = none := by
    have hend := @findOrder?_natDigits n [] (by simp) rfl
    rw [List.append_nil] at hend
    exact hend
  cases page with
  | all => rfl
  | limitOffset limit offset =>
      rw [PageClause.write, findFrom?_passed hlimit,
        findOrder?_natDigits limit (by rintro c ⟨⟩; decide) rfl, findFrom?_passed hoffset, hlast]
  | offsetComma offset limit =>
      rw [PageClause.write, findFrom?_passed hlimit,
        findOrder?_natDigits offset (by rintro c ⟨⟩; decide) rfl, findFrom?_passed hcomma, hlast]

/-- A written order goes on with its column and its direction. -/
theorem orderedColumn?_clause {clause : OrderClause} (isName : IsName clause.column)
    (page : PageClause) :
    orderedColumn? ("BY ".toList ++ (clause.column.toList ++
      (clause.writeDirection ++ page.write))) = some clause.meaning := by
  have hname := isName.takeSpacedName?_behind (clause.isBehindName_direction page)
  have hby : afterKeyword? "by".toList ("BY ".toList ++ (clause.column.toList ++
      (clause.writeDirection ++ page.write))) =
      some (' ' :: (clause.column.toList ++ (clause.writeDirection ++ page.write))) := rfl
  simp only [orderedColumn?, hby, Option.bind_some, hname, Option.map_some, takeDirection?_clause]
  rfl

/-- The order is found behind its own keywords. -/
theorem ordering?_selectionChars (isName : IsName table)
    (areNames : ∀ clause ∈ order, IsName clause.column) :
    ordering? (selectionChars table order page) = order.map OrderClause.meaning := by
  have hstart : passed? "order".toList false Clause.selectFrom = some false := by decide +kernel
  have behind := isBehindName_clauses order page
  rw [ordering?_eq, selectionChars, findWord?, findFrom?_passed hstart,
    findFrom?_clause (by decide) (fun c hc => isName.isWord_of_mem hc) isName.1
      (fun c hc => (behind.head c hc).1) (behind.bind_eq_none orderedColumn?_letter)]
  cases order with
  | none => exact findOrder?_page page
  | some clause =>
      have hspace (text : List Char) : findFrom? (clause? "order" orderedColumn?) true
          (' ' :: text) = findFrom? (clause? "order" orderedColumn?) false text := rfl
      have hfound (rest : List Char) : clause? "order" orderedColumn? ("ORDER BY ".toList ++ rest) =
          orderedColumn? ("BY ".toList ++ rest) := rfl
      rw [Option.elim_some, clause.write_append]
      refine (hspace _).trans (findFrom?_of_eq_some ?_)
      exact (hfound _).trans (orderedColumn?_clause (areNames clause rfl) page)

/-- The words that counts stand behind. -/
def countWords : List String :=
  ["limit", "offset"]

section Counts

variable {word : String} (hword : word ∈ countWords)
include hword

/-- A search for a count goes past a name, be it called like the count. -/
theorem findCount?_run {run rest : List Char} (hrun : ∀ c ∈ run, isWord c = true) (hne : run ≠ [])
    (behind : IsBehindName rest) :
    findFrom? (takeCount? word) false (run ++ rest) = findFrom? (takeCount? word) true rest := by
  have areKeywords : ∀ word ∈ countWords, IsKeyword word := forall_mem_of_all (by decide)
  exact findFrom?_clause (areKeywords word hword) hrun hne (fun c hc => (behind.head c hc).1)
    (behind.bind_eq_none takeRun?_letter)

/-- A search for a count passes over the other keywords of a selection. -/
theorem findCount?_passed {text : List Char} {before after : Bool}
    (hpassed : countWords.all fun word => passed? word.toList before text == some after)
    (rest : List Char) :
    findFrom? (takeCount? word) before (text ++ rest) = findFrom? (takeCount? word) after rest :=
  findFrom?_passed (beq_iff_eq.mp (List.all_eq_true.mp hpassed word hword)) rest

/-- A count is found in the part of a selection that is about its rows, or nowhere. -/
theorem findCount?_selectionChars (isName : IsName table)
    (areNames : ∀ clause ∈ order, IsName clause.column) :
    findWord? (takeCount? word) (selectionChars table order page) =
      findFrom? (takeCount? word) true page.write := by
  have hstart (rest : List Char) := @findCount?_passed word hword Clause.selectFrom false false
    (by decide +kernel) rest
  have horder (rest : List Char) := @findCount?_passed word hword Clause.orderBy true false
    (by decide +kernel) rest
  have hdirection (direction : Direction) (rest : List Char) :=
    @findCount?_passed word hword (' ' :: direction.word.toList) true true
      (by cases direction <;> decide +kernel) rest
  rw [selectionChars, findWord?, hstart, findCount?_run hword (fun c hc => isName.isWord_of_mem hc)
    isName.1 (isBehindName_clauses order page)]
  cases order with
  | none => rfl
  | some clause =>
      have isColumn := areNames clause rfl
      rw [Option.elim_some, clause.write_append, horder,
        findCount?_run hword (fun c hc => isColumn.isWord_of_mem hc) isColumn.1
          (clause.isBehindName_direction page), OrderClause.writeDirection]
      cases clause.direction with
      | none => rfl
      | some direction => exact hdirection direction page.write

end Counts

/-- A count is taken behind its word, with what stands behind it. -/
theorem takeCount?_natDigits {word : String} {text rest : List Char} {n : Nat}
    (hafter : afterKeyword? word.toList text = some (' ' :: (natDigits n ++ rest)))
    (hrest : ∀ c ∈ rest.head?, isDigit c = false) :
    takeCount? word text = some (natDigits n, rest) := by
  have hblanks : afterBlanks? (' ' :: (natDigits n ++ rest)) =
      some (trimStart (natDigits n ++ rest)) := rfl
  rw [takeCount?_eq, clause?, hafter, Option.bind_some, hblanks, trimStart_natDigits,
    Option.bind_some, takeRun?_natDigits n hrest]

/-- A count behind a space and its word is found. -/
theorem findCount?_natDigits {word : String} {text rest : List Char} {n : Nat}
    (hafter : afterKeyword? word.toList text = some (' ' :: (natDigits n ++ rest)))
    (hrest : ∀ c ∈ rest.head?, isDigit c = false) :
    findFrom? (takeCount? word) true (' ' :: text) = some (natDigits n, rest) := by
  have hspace : findFrom? (takeCount? word) true (' ' :: text) =
      findFrom? (takeCount? word) false text := rfl
  rw [hspace, findFrom?_of_eq_some (takeCount?_natDigits hafter hrest)]

/-- The part of the rows is read as it is written, in both forms. -/
theorem readPage_selectionChars (isName : IsName table)
    (areNames : ∀ clause ∈ order, IsName clause.column) (readable : page.IsReadable) :
    readPage (selectionChars table order page) = .ok page.meaning := by
  have hlimit := @findCount?_selectionChars table order page "limit" (by decide) isName areNames
  have hoffset := @findCount?_selectionChars table order page "offset" (by decide) isName areNames
  cases page with
  | all =>
      have hnone : findFrom? (takeCount? "limit") true PageClause.all.write = none := rfl
      rw [readPage, hlimit, hnone]
      rfl
  | limitOffset limit offset =>
      have hfirst : findFrom? (takeCount? "limit") true (PageClause.limitOffset limit offset).write =
          some (natDigits limit, Clause.offset ++ natDigits offset) :=
        findCount?_natDigits rfl (by rintro c ⟨⟩; decide +kernel)
      have hsecond : findFrom? (takeCount? "offset") true
          (PageClause.limitOffset limit offset).write = some (natDigits offset, []) := by
        have hpassed : passed? "offset".toList true Clause.limit = some false := by
          decide +kernel
        have hrun := @findCount?_run "offset" (by decide) (natDigits limit)
          (Clause.offset ++ natDigits offset) (fun c hc => isWord_of_mem_natDigits hc)
          Nat.toDigits_ne_nil (.inr ⟨'O', by decide, _, rfl⟩)
        have hlast := @findCount?_natDigits "offset" ("OFFSET ".toList ++ (natDigits offset ++ []))
          [] offset rfl (by simp)
        rw [List.append_nil] at hlast
        exact (findFrom?_passed hpassed _).trans (hrun.trans hlast)
      have hcomma : takeSecondCount? (Clause.offset ++ natDigits offset) = none := rfl
      simp only [readPage, hlimit, hoffset, hfirst, hsecond, hcomma,
        readInt_natDigits readable.1, readInt_natDigits readable.2, bind_ok]
      rfl
  | offsetComma offset limit =>
      have hfirst : findFrom? (takeCount? "limit") true (PageClause.offsetComma offset limit).write =
          some (natDigits offset, Clause.comma ++ natDigits limit) :=
        findCount?_natDigits rfl (by rintro c ⟨⟩; decide +kernel)
      have hcomma : takeSecondCount? (Clause.comma ++ natDigits limit) =
          some (natDigits limit) := by
        have hspace : trimStart (' ' :: natDigits limit) = trimStart (natDigits limit ++ []) := by
          rw [List.append_nil]
          rfl
        have htaken := @takeRun?_natDigits limit [] (by simp)
        have hopened : takeSecondCount? (Clause.comma ++ natDigits limit) =
            (takeRun? isDigit (trimStart (' ' :: natDigits limit))).map Prod.fst := rfl
        rw [hopened, hspace, trimStart_natDigits, htaken]
        rfl
      simp only [readPage, hlimit, hfirst, hcomma, readInt_natDigits readable.1,
        readInt_natDigits readable.2, bind_ok]
      rfl

end Shape

/-- A text ends in a word character if a run of them stands there, or what does stand behind it ends
in one. -/
theorem endsInWord_append {run rest : List Char} (hrun : ∀ c ∈ run, isWord c = true) (hne : run ≠ [])
    (hrest : ∀ c ∈ rest.getLast?, isWord c = true) (front : List Char) :
    ∀ c ∈ (front ++ (run ++ rest)).getLast?, isWord c = true := by
  intro c hc
  rw [List.getLast?_append_of_ne_nil _ (List.append_ne_nil_of_left_ne_nil hne rest),
    List.getLast?_append, Option.mem_def, Option.or_eq_some_iff] at hc
  rcases hc with hlast | ⟨-, hlast⟩
  · exact hrest c hlast
  · exact hrun c (List.mem_of_mem_getLast? hlast)

theorem PageClause.endsInWord (page : PageClause) :
    ∀ c ∈ page.write.getLast?, isWord c = true := by
  have hlast (n : Nat) (front : List Char) :
      ∀ c ∈ (front ++ natDigits n).getLast?, isWord c = true := by
    have hdigits : ∀ c ∈ natDigits n, isWord c = true := fun c hc => isWord_of_mem_natDigits hc
    have hends := @endsInWord_append (natDigits n) [] hdigits Nat.toDigits_ne_nil (by simp) front
    rwa [List.append_nil] at hends
  cases page with
  | all => simp [write]
  | limitOffset | offsetComma =>
      exact endsInWord_append (fun c hc => isWord_of_mem_natDigits hc) Nat.toDigits_ne_nil
        (hlast _ _) _

theorem OrderClause.endsInWord_direction (clause : OrderClause) (page : PageClause) :
    ∀ c ∈ (clause.writeDirection ++ page.write).getLast?, isWord c = true := by
  unfold writeDirection
  cases clause.direction with
  | none => exact page.endsInWord
  | some direction =>
      have hword : ∀ c ∈ direction.word.toList, isWord c = true := by
        cases direction <;> exact forall_mem_of_all (by decide)
      have hne : direction.word.toList ≠ [] := by cases direction <;> decide
      exact endsInWord_append hword hne page.endsInWord [' ']

/-- A written selection ends in a word character, so nothing is stripped off it. -/
theorem strip_selectionChars {table : String} {order : Option OrderClause} {page : PageClause}
    (isName : IsName table) (areNames : ∀ clause ∈ order, IsName clause.column) :
    Statement.strip (selectionChars table order page) = selectionChars table order page := by
  have hclauses : ∀ c ∈ (order.elim [] OrderClause.write ++ page.write).getLast?,
      isWord c = true := by
    cases order with
    | none => exact page.endsInWord
    | some clause =>
        have isColumn := areNames clause rfl
        rw [Option.elim_some, clause.write_append]
        exact endsInWord_append (fun c hc => isColumn.isWord_of_mem hc) isColumn.1
          (clause.endsInWord_direction page) _
  apply Statement.strip_eq_self
  · rintro c ⟨⟩
    decide
  · intro c hc
    have hword := endsInWord_append (fun c hc => isName.isWord_of_mem hc) isName.1 hclauses _ c hc
    exact ⟨not_isBlank_of_isWord hword, ne_of_isWord hword (by decide)⟩

/-- A selection is read as it is written. -/
theorem read_selectionText {table : String} {order : Option OrderClause} {page : PageClause}
    (isName : IsName table) (areNames : ∀ clause ∈ order, IsName clause.column)
    (readable : page.IsReadable) :
    Statement.read (selectionText table order page) =
      .ok (.select (selectionOf table order page)) := by
  have hkeyword : afterPhrase? ["select"] (selectionChars table order page) =
      some (" * FROM ".toList ++ (table.toList ++
        (order.elim [] OrderClause.write ++ page.write))) := rfl
  have hword : startsWithWord (" * FROM ".toList ++ (table.toList ++
      (order.elim [] OrderClause.write ++ page.write))) = false := rfl
  have hselect : Shape.select (selectionChars table order page) =
      some (.statement (.select (selectionOf table order page))) := by
    simp only [Shape.select, hkeyword, Option.bind_eq_bind, Option.bind_some, hword,
      Bool.false_eq_true, if_false, Shape.readPage_selectionChars isName areNames readable, bind_ok,
      Shape.source?_selectionChars isName, Shape.ordering?_selectionChars isName areNames]
    rfl
  rw [Statement.read_eq_ok_iff, selectionText, String.toList_ofList,
    strip_selectionChars isName areNames]
  exact hselect

namespace Table

variable {table : Table} {columns : List String}

/-- The rows of a table in an order that a selection may ask for. -/
def orderedRows (table : Table) : Option Ordering → Except Fault (List Row)
  | none => .ok table.rows
  | some ordering =>
    (table.columnKey ordering.column).map (sortRows table.rows · ordering.descending)

/-- A selection takes a part of the rows in their order. -/
theorem select_eq {selection : Selection} {rows : List Row} (hcolumns : table.columnNames = .ok columns)
    (hrows : table.orderedRows selection.ordering = .ok rows) :
    table.select selection =
      .ok (.rows columns (page rows selection.limit selection.offset) (some table.rows.length)) := by
  unfold select
  cases hordering : selection.ordering with
  | none =>
      rw [hordering] at hrows
      cases hrows
      simp only [bind_ok, hcolumns]
  | some ordering =>
      rw [hordering] at hrows
      obtain ⟨key, hkey, rfl⟩ := map_eq_ok_iff.mp hrows
      simp only [hkey, bind_ok, hcolumns]

/-- A table whose columns have names finds a key for every name, and a column's own name under it. -/
theorem exists_columnKey (hcolumns : table.columnNames = .ok columns) (column : String) :
    ∃ key, table.columnKey column = .ok key ∧ (column ∈ columns → key = column) := by
  have hfirst := firstName?_eq hcolumns
  cases hexact : columns.find? (· == column) with
  | some found =>
      have hequal : found = column := by simpa using List.find?_some hexact
      refine ⟨found, ?_, fun _ => hequal⟩
      simp only [columnKey, hfirst, hexact, bind_ok]
  | none =>
      refine ⟨(columns.find? (sameName · column)).getD column, ?_, fun hcolumn => ?_⟩
      · simp only [columnKey, hfirst, hexact, bind_ok]
      · exact absurd BEq.rfl (List.find?_eq_none.mp hexact column hcolumn)

end Table

namespace Server

variable {server : Server} {current : Current} {name : String} {table : Table}

/-- A selection from a table that is there answers what it selects from it and changes nothing. -/
theorem run_select {selection : Selection} {answer : Answer}
    (htarget : server.target? current name = some table) (hsource : selection.source = some name)
    (hanswer : table.select selection = .ok answer) :
    server.run current (.select selection) = .ok (answer, server) := by
  obtain ⟨given, key, tables, stored, hfind, hstored⟩ := target?_eq_some htarget
  have hrun : server.run current (.select selection) = .ok (answer, server.set key tables) := by
    simp only [run, hfind, bind_ok, Database.run, Database.select, hsource, Option.bind_some, hstored,
      hanswer]
  rw [hrun, run_onlyReads rfl hrun]

/-- A written selection answers the part of the rows that it asks for, in the order that it asks
for, with the number of all rows. -/
theorem execute_selectionText {columns : List String} {rows : List Row} {order : Option OrderClause}
    {page : PageClause} (htarget : server.target? current name = some table)
    (hcolumns : table.columnNames = .ok columns) (isName : IsName name)
    (areNames : ∀ clause ∈ order, IsName clause.column) (readable : page.IsReadable)
    (hrows : table.orderedRows (order.map OrderClause.meaning) = .ok rows) :
    server.execute current (selectionText name order page) =
      (.ok (.rows columns (Table.page rows page.meaning.1 page.meaning.2)
        (some table.rows.length)), server) := by
  have hselect := @Table.select_eq table columns (selectionOf name order page) rows hcolumns hrows
  rw [execute_of_ok current (read_selectionText isName areNames readable),
    run_select htarget rfl hselect]
  rfl

end Server

end MockSql
