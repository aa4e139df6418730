/-
# Changes of columns written out

A change of columns names its table, and then the column to drop or the column to add and its type. A
column to drop is looked for anywhere behind the table, also inside the brackets of a type. So a removal
is read as it is written, and so is an addition if its type does not ask to drop a column; if it does,
the addition is read as that removal.
-/

import MockSql.Proofs.ColumnTexts
import MockSql.Proofs.FixedShapes
import MockSql.Proofs.Selections

namespace MockSql

open MockSql.Text MockSql.ColumnDefinition

namespace Text

section Search

variable {α : Type} {word : String} {more : List Char → Option α} {run rest : List Char}

/-- No clause begins with a character that is not in a word. -/
theorem clause?_of_not_isWord (isKeyword : IsKeyword word) {c : Char} (hc : isWord c = false) :
    clause? word more (c :: rest) = none := by
  have hnone : afterKeyword? word.toList (c :: rest) = none := by
    rw [Option.eq_none_iff_forall_ne_some]
    intro after hafter
    obtain ⟨spelled, htext, spells⟩ := afterKeyword?_eq_some_iff.mp hafter
    have hchars := Spells.isWord isKeyword.2 spells
    cases spelled with
    | nil => exact @Part.Writes.ne_nil (.keyword word) [] isKeyword spells rfl
    | cons d spelled =>
        cases htext
        rw [hchars c List.mem_cons_self] at hc
        cases hc
  rw [clause?, hnone]
  rfl

/-- A search for a clause goes past what is between two words. -/
theorem findFrom?_between (isKeyword : IsKeyword word) (hne : run ≠ [])
    (hrun : ∀ c ∈ run, isWord c = false) (before : Bool) :
    findFrom? (clause? word more) before (run ++ rest) =
      findFrom? (clause? word more) false rest := by
  induction run generalizing before with
  | nil => exact absurd rfl hne
  | cons c run ih =>
      obtain ⟨hc, hlater⟩ := List.forall_mem_cons.mp hrun
      rw [List.cons_append, findFrom?, clause?_of_not_isWord isKeyword hc, ite_self, Option.none_or,
        hc]
      cases run with
      | nil => rfl
      | cons d run => exact ih (List.cons_ne_nil d run) hlater false

/-- A search for a clause goes past another keyword. -/
theorem findFrom?_keyword {other : String} (isKeyword : IsKeyword word) (isOther : IsKeyword other)
    (differ : lettersDiffer other.toList word.toList = true) (spells : Spells other.toList run) :
    findFrom? (clause? word more) false (run ++ rest) =
      findFrom? (clause? word more) true rest := by
  have hne : run ≠ [] := @Part.Writes.ne_nil (.keyword other) run isOther spells
  have hother : afterKeyword? other.toList (run ++ rest) = some rest :=
    afterKeyword?_eq_some_iff.mpr ⟨run, rfl, spells⟩
  refine findFrom?_run (Spells.isWord isOther.2 spells) hne ?_
  rw [clause?, afterKeyword?_eq_none isOther.2 isKeyword.2 differ hother]
  rfl

theorem not_isWord_of_mark {closing : List Char} (hclosing : closing ∈ [[], [nameMark]]) :
    ∀ c ∈ closing, isWord c = false := by
  have hmarks : ∀ closing ∈ [[], [nameMark]], ∀ c ∈ closing, isWord c = false := by decide
  exact hmarks closing hclosing

/-- A search for a clause goes past a name behind which the clause could not go on. -/
theorem findFrom?_name {name : String} {named gap : List Char} (isKeyword : IsKeyword word)
    (writes : WritesName name named) (isGap : IsGap gap)
    (hrest : ∀ c ∈ rest.head?, isBlank c = false) (hmore : more rest = none) :
    findFrom? (clause? word more) false (named ++ (gap ++ rest)) =
      findFrom? (clause? word more) false rest := by
  obtain ⟨isName, opening, hopening, closing, hclosing, rfl⟩ := writes
  have hbehind : ∀ c ∈ closing ++ gap, isWord c = false :=
    List.forall_mem_append.mpr ⟨not_isWord_of_mark hclosing, isGap.not_isWord⟩
  have hne : closing ++ gap ≠ [] := fun h => isGap.1 (List.append_eq_nil_iff.mp h).2
  have hhead : ∀ c ∈ ((closing ++ gap) ++ rest).head?, isWord c = false := by
    obtain ⟨d, later, hcons⟩ := List.exists_cons_of_ne_nil hne
    rw [hcons] at hbehind ⊢
    rintro c ⟨⟩
    exact hbehind d List.mem_cons_self
  have hclause : (afterBlanks? ((closing ++ gap) ++ rest)).bind more = none := by
    simp only [List.mem_cons, List.not_mem_nil, or_false] at hclosing
    rcases hclosing with rfl | rfl
    · rw [List.nil_append, afterBlanks?_append isGap hrest, Option.bind_some, hmore]
    · rfl
  have hopened : findFrom? (clause? word more) false
      (opening ++ (name.toList ++ ((closing ++ gap) ++ rest))) =
        findFrom? (clause? word more) false (name.toList ++ ((closing ++ gap) ++ rest)) := by
    cases opening with
    | nil => rfl
    | cons c opening =>
        exact findFrom?_between isKeyword (List.cons_ne_nil c opening)
          (not_isWord_of_mark hopening) false
  have hsplit : opening ++ name.toList ++ closing ++ (gap ++ rest) =
      opening ++ (name.toList ++ ((closing ++ gap) ++ rest)) := by simp only [List.append_assoc]
  rw [hsplit, hopened,
    findFrom?_clause isKeyword (fun c hc => isName.isWord_of_mem hc) isName.1 hhead hclause,
    findFrom?_between isKeyword hne hbehind]

end Search

end Text

namespace Shape

/-- A column behind its keyword, and what follows it. -/
def namedColumn? : List Char → Option (String × List Char) :=
  clause? "column" takeName?

theorem namedColumn?_eq (text : List Char) :
    (afterPhrase? ["column"] text).bind takeSpacedName? = namedColumn? text := by
  simp only [afterPhrase?, namedColumn?, clause?]
  cases afterKeyword? "column".toList text <;> rfl

theorem droppedColumn?_eq (text : List Char) : droppedColumn? text =
    findFrom? (clause? "drop" fun rest => (namedColumn? rest).map Prod.fst) false text := by
  rw [droppedColumn?, findWord?]
  congr 1
  funext rest
  rw [afterPhrase?, clause?]
  cases (afterKeyword? "drop".toList rest).bind afterBlanks? with
  | none => rfl
  | some after => simp only [Option.bind_some, namedColumn?_eq]

/-- A column and its type behind the keyword of columns. -/
def typedColumn? (text : List Char) : Option (String × String) :=
  (namedColumn? text).bind fun (column, rest) =>
    ((afterBlanks? rest).bind takeType?).map fun (type, _) => (column, type)

theorem addedColumn?_eq (text : List Char) :
    addedColumn? text = findFrom? (clause? "add" typedColumn?) false text := by
  rw [addedColumn?, findWord?]
  congr 1
  funext rest
  rw [afterPhrase?, clause?]
  cases (afterKeyword? "add".toList rest).bind afterBlanks? with
  | none => rfl
  | some after =>
      simp only [Option.bind_some, namedColumn?_eq, typedColumn?]
      cases namedColumn? after with
      | none => rfl
      | some found =>
          simp only [Option.bind_some, Option.bind_eq_bind]
          cases (afterBlanks? found.2).bind takeType? <;> rfl

end Shape

namespace ColumnDefinition

theorem followsType_nil : FollowsType [] :=
  ⟨by simp, by simp [trimStart], rfl⟩

namespace IsTypeText

variable {type : List Char}

theorem head (isType : IsTypeText type) : ∃ c later, type = c :: later ∧ isWord c = true := by
  cases isType with
  | word hne hword =>
      obtain ⟨c, later, rfl⟩ := List.exists_cons_of_ne_nil hne
      exact ⟨c, later, rfl, hword c List.mem_cons_self⟩
  | bracket hne hword =>
      obtain ⟨c, later, rfl⟩ := List.exists_cons_of_ne_nil hne
      exact ⟨c, _, List.cons_append, hword c List.mem_cons_self⟩

theorem not_isBlank_of_mem_head? (isType : IsTypeText type) :
    ∀ c ∈ type.head?, isBlank c = false := by
  obtain ⟨c, later, rfl, hword⟩ := isType.head
  rintro d ⟨⟩
  exact not_isBlank_of_isWord hword

theorem getLast? (isType : IsTypeText type) : ∃ c, type.getLast? = some c ∧ isSolid c = true := by
  cases isType with
  | word hne hword =>
      exact ⟨type.getLast hne, List.getLast?_eq_some_getLast hne,
        isSolid_of_isWord (hword _ (List.getLast_mem hne))⟩
  | @bracket word blanks inside =>
      have hsplit : word ++ (blanks ++ '(' :: (inside ++ [')'])) =
          (word ++ (blanks ++ '(' :: inside)) ++ [')'] := by simp
      exact ⟨')', by rw [hsplit, List.getLast?_concat], by decide⟩

/-- A column that a change names does not stand in a type where the type begins. -/
theorem namedColumn?_eq_none (isType : IsTypeText type) : Shape.namedColumn? type = none := by
  have isKeyword : IsKeyword "column" := by decide
  cases isType with
  | word hne hword =>
      have hnone : clause? "column" takeName? (type ++ []) = none :=
        clause?_run isKeyword hword (by simp) rfl
      rwa [List.append_nil] at hnone
  | @bracket word blanks inside hne hword hblanks hclosing =>
      refine clause?_run isKeyword hword (not_isWord_of_mem_head?_bracket hblanks) ?_
      have hopening : isWord '(' = false ∧ '(' ≠ nameMark := by decide
      have hname : takeName? ('(' :: (inside ++ [')'])) = none := by
        simp [takeName?, skipChar, takeRun?, hopening]
      cases blanks with
      | nil => rfl
      | cons d blanks =>
          rw [afterBlanks?_append ⟨List.cons_ne_nil d blanks, hblanks⟩ (by rintro c ⟨⟩; decide),
            Option.bind_some, hname]

end IsTypeText

end ColumnDefinition

namespace Shape

variable {table column : String} {front gap type : List Char}

/-- The parts of a change of columns up to its column. -/
def changeParts (table word column : String) : List Part :=
  (keywords ["alter", "table"] ++ [.name table]) ++ (keywords [word, "column"] ++ [.name column])

/-- A written change of a column in its pieces. -/
theorem exists_pieces {word : String}
    (written : Written (keywords [word, "column"] ++ [.name column]) front) :
    ∃ first firstGap second secondGap named,
      front = first ++ (firstGap ++ (second ++ (secondGap ++ named))) ∧
        Spells word.toList first ∧ IsGap firstGap ∧
        Spells "column".toList second ∧ IsGap secondGap ∧ WritesName column named := by
  obtain _ | @⟨_, _, first, firstGap, _, spells, isFirst, later⟩ := written
  obtain _ | @⟨_, _, second, secondGap, _, spellsColumn, isSecond, last⟩ := later
  cases last with
  | next _ _ nothing => cases nothing
  | last writes =>
      exact ⟨first, firstGap, second, secondGap, _, by simp only [List.append_assoc], spells, isFirst,
        spellsColumn, isSecond, writes⟩

/-- In a written addition a column to drop is found in the type only. -/
theorem droppedColumn?_addition {between : List Char} (isGap : IsGap gap)
    (written : Written (keywords ["add", "column"] ++ [.name column]) front)
    (isBetween : IsGap between) (isType : IsTypeText type) :
    droppedColumn? (gap ++ (front ++ (between ++ type))) = droppedColumn? type := by
  have isKeyword : IsKeyword "drop" ∧ IsKeyword "add" ∧ IsKeyword "column" := by decide
  obtain ⟨first, firstGap, second, secondGap, named, rfl, spellsAdd, isFirst, spellsColumn, isSecond,
    writes⟩ := exists_pieces written
  have hmore : (namedColumn? type).map Prod.fst = none := by rw [isType.namedColumn?_eq_none]; rfl
  simp only [droppedColumn?_eq, List.append_assoc]
  rw [findFrom?_between isKeyword.1 isGap.1 isGap.not_isWord,
    findFrom?_keyword isKeyword.1 isKeyword.2.1 (by decide) spellsAdd,
    findFrom?_between isKeyword.1 isFirst.1 isFirst.not_isWord,
    findFrom?_keyword isKeyword.1 isKeyword.2.2 (by decide) spellsColumn,
    findFrom?_between isKeyword.1 isSecond.1 isSecond.not_isWord,
    findFrom?_name isKeyword.1 writes isBetween isType.not_isBlank_of_mem_head? hmore]

/-- In a written addition the column to add is found with its type. -/
theorem addedColumn?_addition {between : List Char} (isGap : IsGap gap)
    (written : Written (keywords ["add", "column"] ++ [.name column]) front)
    (isBetween : IsGap between) (isType : IsTypeText type) :
    addedColumn? (gap ++ (front ++ (between ++ type))) = some (column, String.ofList type) := by
  have isKeyword : IsKeyword "add" := by decide
  have hcolumn : (afterPhrase? ["add", "column"] (front ++ (between ++ type))).bind takeSpacedName? =
      some (column, between ++ type) :=
    afterPhrase?_takeSpacedName?_append (by decide) (by decide) written
      (isBetween.not_word_of_mem_head? type)
  have htype : takeType? type = some (String.ofList type, []) := by
    simpa using takeType?_append isType followsType_nil
  rw [addedColumn?_eq, findFrom?_between isKeyword isGap.1 isGap.not_isWord, ← addedColumn?_eq,
    addedColumn?, findWord?]
  refine findFrom?_of_eq_some ?_
  simp only [hcolumn, Option.bind_eq_bind, Option.bind_some,
    afterBlanks?_append isBetween isType.not_isBlank_of_mem_head?, htype]

theorem droppedColumn?_removal (isGap : IsGap gap)
    (written : Written (keywords ["drop", "column"] ++ [.name column]) front) :
    droppedColumn? (gap ++ front) = some column := by
  have isKeyword : IsKeyword "drop" := by decide
  have hcolumn : (afterPhrase? ["drop", "column"] (front ++ [])).bind takeSpacedName? =
      some (column, []) :=
    afterPhrase?_takeSpacedName?_append (by decide) (by decide) written (by simp)
  rw [List.append_nil] at hcolumn
  rw [droppedColumn?_eq, findFrom?_between isKeyword isGap.1 isGap.not_isWord, ← droppedColumn?_eq,
    droppedColumn?, findWord?]
  exact findFrom?_of_eq_some (by rw [hcolumn]; rfl)

/-- A change of columns is looked for behind the table. -/
theorem alterTable_append {rest : List Char}
    (written : Written (keywords ["alter", "table"] ++ [.name table]) front) (isGap : IsGap gap)
    {change : ColumnChange} (hchange : columnChange? (gap ++ rest) = some change) :
    alterTable (front ++ (gap ++ rest)) = some (.statement (.alterTable table change)) := by
  have htable : (afterPhrase? ["alter", "table"] (front ++ (gap ++ rest))).bind takeSpacedName? =
      some (table, gap ++ rest) :=
    afterPhrase?_takeSpacedName?_append (by decide) (by decide) written
      (isGap.not_word_of_mem_head? rest)
  simp only [alterTable, htable, Option.bind_eq_bind, Option.bind_some, hchange]

end Shape

namespace Statement

open Shape

variable {table column query : String} {type : List Char}

/-- A text that asks to drop a column of a table. -/
def WritesRemoval (table column query : String) : Prop :=
  ∃ core, Surrounds query.toList core ∧ Written (changeParts table "drop" column) core

/-- A text that asks to add a column of a type to a table, with nothing behind the type. -/
def WritesAddition (table column : String) (type : List Char) (query : String) : Prop :=
  ∃ front gap, Surrounds query.toList (front ++ (gap ++ type)) ∧
    Written (changeParts table "add" column) front ∧ IsGap gap ∧ IsTypeText type

/-- A change of columns is written as its table and its column. -/
theorem written_changeParts {word : String} {first second : List Char}
    (hfirst : (afterPhrase? ["alter", "table"] first).bind takeSpacedName? = some (table, []))
    (hsecond : (afterPhrase? [word, "column"] second).bind takeSpacedName? = some (column, [])) :
    Written (changeParts table word column) (first ++ [' '] ++ second) :=
  (written_of_nothing_left (by simp) hfirst).append isGap_space
    (written_of_nothing_left (by simp) hsecond)

theorem writesRemoval_of_parts {first second : List Char}
    (hquery : query.toList = first ++ [' '] ++ second)
    (hfirst : (afterPhrase? ["alter", "table"] first).bind takeSpacedName? = some (table, []))
    (hsecond : (afterPhrase? ["drop", "column"] second).bind takeSpacedName? = some (column, [])) :
    WritesRemoval table column query :=
  ⟨_, surrounds_self hquery, written_changeParts hfirst hsecond⟩

theorem writesAddition_of_parts {first second : List Char}
    (hquery : query.toList = first ++ [' '] ++ second ++ ([' '] ++ type))
    (hfirst : (afterPhrase? ["alter", "table"] first).bind takeSpacedName? = some (table, []))
    (hsecond : (afterPhrase? ["add", "column"] second).bind takeSpacedName? = some (column, []))
    (isType : IsTypeText type) : WritesAddition table column type query :=
  ⟨_, _, surrounds_self hquery, written_changeParts hfirst hsecond, isGap_space, isType⟩

theorem changeParts_proper {word : String} (isKeyword : IsKeyword word) :
    ∀ part ∈ changeParts table word column, part.Proper := by
  have hwords : ∀ other ∈ [word, "column"], IsKeyword other :=
    List.forall_mem_cons.mpr ⟨isKeyword, by decide⟩
  simp only [changeParts, List.forall_mem_append, List.forall_mem_singleton]
  exact ⟨⟨keywords_proper (by decide), trivial⟩, keywords_proper hwords, trivial⟩

/-- A removal of a column is read as it is written. -/
theorem read_removal (writes : WritesRemoval table column query) :
    read query = .ok (.alterTable table (.drop column)) := by
  obtain ⟨core, surrounds, written⟩ := writes
  have proper : ∀ part ∈ changeParts table "drop" column, part.Proper :=
    changeParts_proper (by decide)
  have hstrip := strip_eq_of_surrounds (written.head proper) (written.getLast? proper) surrounds
  obtain ⟨front, gap, back, rfl, isGap, hfront, hback⟩ :=
    written.split (by simp [keywords]) (by simp [keywords])
  have hchange : columnChange? (gap ++ back) = some (.drop column) := by
    rw [columnChange?, droppedColumn?_removal isGap hback]
    rfl
  rw [read_eq_ok_iff, hstrip, List.append_assoc]
  exact alterTable_append hfront isGap hchange

/-- An addition of a column is read as it is written, unless its type asks to drop a column. -/
theorem read_addition (writes : WritesAddition table column type query) :
    read query = .ok (.alterTable table (match droppedColumn? type with
      | some dropped => .drop dropped
      | none => .add column (String.ofList type))) := by
  obtain ⟨core, between, surrounds, written, isBetween, isType⟩ := writes
  have proper : ∀ part ∈ changeParts table "add" column, part.Proper :=
    changeParts_proper (by decide)
  have hfirst : ∃ c later, core ++ (between ++ type) = c :: later ∧ isSolid c = true := by
    obtain ⟨c, later, rfl, hsolid⟩ := written.head proper
    exact ⟨c, _, List.cons_append, hsolid⟩
  have hlast : ∃ c, (core ++ (between ++ type)).getLast? = some c ∧ isSolid c = true := by
    obtain ⟨c, hc, hsolid⟩ := isType.getLast?
    exact ⟨c, getLast?_append_of_eq_some _ (getLast?_append_of_eq_some _ hc), hsolid⟩
  have hstrip := strip_eq_of_surrounds hfirst hlast surrounds
  obtain ⟨front, gap, back, rfl, isGap, hfront, hback⟩ :=
    written.split (by simp [keywords]) (by simp [keywords])
  have hchange : columnChange? (gap ++ (back ++ (between ++ type))) =
      some (match droppedColumn? type with
        | some dropped => .drop dropped
        | none => .add column (String.ofList type)) := by
    rw [columnChange?, droppedColumn?_addition isGap hback isBetween isType,
      addedColumn?_addition isGap hback isBetween isType]
    cases droppedColumn? type <;> rfl
  rw [read_eq_ok_iff, hstrip, List.append_assoc, List.append_assoc]
  exact alterTable_append hfront isGap hchange

end Statement

end MockSql
