/-
# What stands behind the keyword of value lists

An insertion is written as keywords and a name, perhaps a column list, the keyword of value lists, and
then the lists. Of the lists only the first group is looked at: behind it there may be nothing, or any
text that ends with a closing parenthesis. With any other text behind its first group an insertion is
none.
-/

import MockSql.Proofs.FixedShapes
import MockSql.Proofs.Groups
import MockSql.Proofs.Recognisers

namespace MockSql

open MockSql.Text MockSql.Literal

namespace Text

variable {text rest : List Char} {name : String}

/-- A phrase and a name behind it are taken if the name has a mark behind it, whatever follows, or if
nothing that follows could belong to it. -/
theorem takeSpacedName?_of_written {words : List String} {front : List Char}
    (areKeywords : ∀ word ∈ words, IsKeyword word) (hwords : words ≠ [])
    (written : Written (keywords words ++ [.name name]) front)
    (hrest : (∀ c ∈ rest.head?, isWord c = false ∧ c ≠ nameMark) ∨
      front.getLast? = some nameMark) :
    (afterPhrase? words (front ++ rest)).bind takeSpacedName? = some (name, rest) := by
  rcases hrest with hrest | marked
  · exact afterPhrase?_takeSpacedName?_append areKeywords hwords written hrest
  · obtain ⟨phrase, gap, back, rfl, isGap, hphrase, hback⟩ :=
      written.split (by simpa [keywords] using hwords) (List.cons_ne_nil _ _)
    cases hback with
    | next writes _ later => cases later
    | last writes =>
        have hproper : ∀ part ∈ [Part.name name], part.Proper := by simp [Part.Proper]
        have hblank := (Written.last writes).not_isBlank_of_mem_head?_append hproper rest
        obtain ⟨c, later, hcons, -⟩ := (Written.last writes).head hproper
        have hlast : back.getLast? = some nameMark := by
          rw [List.getLast?_append, hcons] at marked
          rw [hcons]
          simpa [List.getLast?_cons] using marked
        simp only [List.append_assoc]
        rw [afterPhrase?_append areKeywords hphrase, Option.bind_some, takeSpacedName?,
          afterBlanks?_append isGap hblank, Option.bind_some]
        exact takeName?_append_marked writes hlast rest

end Text

/-- The keyword of value lists with white space behind it. -/
def WritesValues (text : List Char) : Prop :=
  ∃ keyword blanks, Spells "values".toList keyword ∧ AreBlanks blanks ∧ text = keyword ++ blanks

/-- The keyword of value lists begins with a word character. -/
theorem WritesValues.exists_cons {keyword : List Char} (hkeyword : WritesValues keyword) :
    ∃ c later, keyword = c :: later ∧ isWord c = true := by
  obtain ⟨spelled, blanks, spells, -, rfl⟩ := hkeyword
  cases spells with
  | cons hletter later => exact ⟨_, _, rfl, isWord_of_isLetter (by decide) hletter⟩

namespace Shape

variable {text groups : List Char}

/-- What is taken as value lists stands behind their keyword, and begins and ends with a
parenthesis. -/
theorem takeGroups?_eq_some (h : takeGroups? text = some groups) :
    ∃ before keyword, AreBlanks before ∧ WritesValues keyword ∧
      text = before ++ (keyword ++ groups) ∧ groups.head? = some '(' ∧
      groups.getLast? = some ')' := by
  obtain ⟨hgroups, hends⟩ := Option.filter_eq_some_iff.mp h
  obtain ⟨after, hafter, rfl⟩ := Option.map_eq_some_iff.mp hgroups
  obtain ⟨spelled, hspelled, spells⟩ := afterKeyword?_eq_some_iff.mp hafter
  obtain ⟨before, hbefore, htext⟩ := exists_trimStart text
  obtain ⟨blanks, hblanks, hrest⟩ := exists_trimStart after
  refine ⟨before, spelled ++ blanks, hbefore, ⟨spelled, blanks, spells, hblanks, rfl⟩, ?_, ?_⟩
  · rw [List.append_assoc, ← hrest, ← hspelled]
    exact htext
  · simpa using hends

/-- Whatever stands behind the keyword is taken, if it begins and ends with a parenthesis. -/
theorem takeGroups?_append {before keyword : List Char} (hbefore : AreBlanks before)
    (hkeyword : WritesValues keyword) (hhead : groups.head? = some '(')
    (hlast : groups.getLast? = some ')') :
    takeGroups? (before ++ (keyword ++ groups)) = some groups := by
  obtain ⟨spelled, blanks, spells, hblanks, rfl⟩ := hkeyword
  have hword : ∀ c ∈ (spelled ++ blanks ++ groups).head?, isBlank c = false := by
    cases spells with
    | cons hletter later =>
        rintro c ⟨⟩
        exact not_isBlank_of_isWord (isWord_of_isLetter (by decide) hletter)
  have hopening : ∀ c ∈ groups.head?, isBlank c = false := by
    rw [hhead]
    rintro c ⟨⟩
    decide +kernel
  have hphrase : afterPhrase? ["values"] (spelled ++ (blanks ++ groups)) = some (blanks ++ groups) :=
    afterKeyword?_eq_some_iff.mpr ⟨spelled, rfl, spells⟩
  rw [takeGroups?, trimStart_append hbefore hword, List.append_assoc, hphrase, Option.map_some,
    trimStart_append hblanks hopening, Option.filter_some, hhead, hlast]
  rfl

end Shape

/-- The ways of writing what stands between the name of a table and the keyword of its value lists:
a column list, or white space only. -/
inductive ListsColumns : Option (List Char) → List Char → Prop
  | absent {blanks : List Char} (areBlanks : AreBlanks blanks) : ListsColumns none blanks
  | given {before list between : List Char} (hbefore : AreBlanks before) (closed : ')' ∉ list)
      (hbetween : AreBlanks between) :
      ListsColumns (some list) (before ++ '(' :: (list ++ ')' :: between))

/-- The ways of writing the beginning of an insertion, up to its value lists. If nothing stands
between the name and the keyword, the name has a mark behind it. -/
inductive IntroducesValues (table : String) (columns : Option (List Char)) : List Char → Prop
  | intro {front middle keyword : List Char}
      (written : Written (keywords ["insert", "into"] ++ [.name table]) front)
      (listsColumns : ListsColumns columns middle)
      (apart : middle ≠ [] ∨ front.getLast? = some nameMark) (hkeyword : WritesValues keyword) :
      IntroducesValues table columns (front ++ (middle ++ keyword))

/-- The ways of writing the name of a table run together with the keyword of its value lists. -/
inductive RunsTogether (table : String) : List Char → Prop
  | intro {front keyword : List Char}
      (written : Written (keywords ["insert", "into"] ++ [.name table]) front)
      (hkeyword : WritesValues keyword) : RunsTogether table (front ++ keyword)

theorem AreBlanks.append {blanks more : List Char} (hblanks : AreBlanks blanks)
    (hmore : AreBlanks more) : AreBlanks (blanks ++ more) :=
  fun c hc => (List.mem_append.mp hc).elim (hblanks c) (hmore c)

/-- Neither white space nor a column list begins with a part of a name. -/
theorem ListsColumns.not_word_of_mem_head? {columns : Option (List Char)} {middle : List Char}
    (listsColumns : ListsColumns columns middle) :
    ∀ c ∈ middle.head?, isWord c = false ∧ c ≠ nameMark := by
  have hfirst : ∀ blanks : List Char, AreBlanks blanks → ∀ c ∈ blanks.head?,
      isWord c = false ∧ c ≠ nameMark :=
    fun blanks areBlanks c hc => not_word_of_isBlank (areBlanks c (List.mem_of_mem_head? hc))
  cases listsColumns with
  | absent areBlanks => exact hfirst _ areBlanks
  | @given before list between hbefore _ _ =>
      cases before with
      | nil =>
          rintro c ⟨⟩
          decide +kernel
      | cons d before =>
          rintro c ⟨⟩
          exact hfirst _ hbefore d rfl

namespace Shape

variable {text rest groups run after : List Char} {columns : Option (List Char)}

/-- A column list is taken, or white space if there is none. -/
theorem takeColumns?_eq_some (h : takeColumns? text = some (columns, rest)) :
    ∃ middle, ListsColumns columns middle ∧ text = middle ++ rest := by
  obtain ⟨before, hbefore, htext⟩ := exists_trimStart text
  unfold takeColumns? at h
  split at h
  next =>
    obtain ⟨⟨list, behind⟩, hbracket, heq⟩ := Option.map_eq_some_iff.mp h
    cases heq
    obtain ⟨htrim, closed⟩ := takeBracketed?_eq_some_iff.mp hbracket
    refine ⟨before ++ '(' :: (list ++ ')' :: []), .given hbefore closed (by simp [AreBlanks]), ?_⟩
    rw [htrim] at htext
    simpa using htext
  next =>
    cases h
    exact ⟨before, .absent hbefore, htext⟩

theorem takeColumns?_list {before list : List Char} (hbefore : AreBlanks before)
    (closed : ')' ∉ list) :
    takeColumns? (before ++ '(' :: (list ++ ')' :: rest)) = some (some list, rest) := by
  have hopening : ∀ c ∈ ('(' :: (list ++ ')' :: rest)).head?, isBlank c = false := by
    rintro c ⟨⟩
    decide +kernel
  have hbracket : takeBracketed? ('(' :: (list ++ ')' :: rest)) = some (list, rest) :=
    takeBracketed?_eq_some_iff.mpr ⟨rfl, closed⟩
  rw [takeColumns?, trimStart_append hbefore hopening]
  simp only [hbracket, Option.map_some]

theorem takeColumns?_none {c : Char} {before : List Char} (hbefore : AreBlanks before)
    (hword : isWord c = true) :
    takeColumns? (before ++ c :: rest) = some (none, c :: rest) := by
  have hblank : ∀ d ∈ (c :: rest).head?, isBlank d = false := by
    rintro d ⟨⟩
    exact not_isBlank_of_isWord hword
  have hopening : c ≠ '(' := ne_of_isWord hword (by decide)
  unfold takeColumns?
  rw [trimStart_append hbefore hblank]
  split
  next heq => exact absurd (List.cons_eq_cons.mp heq).1 hopening
  next => rfl

/-- The name of a table that is run together with the keyword is what stands before that. -/
theorem splitTable?_eq_some {table : List Char} (h : splitTable? run after = some (table, rest)) :
    table ≠ [] ∧ ∃ word, run = table ++ word ∧ word ≠ [] ∧ rest = word ++ after := by
  unfold splitTable? at h
  split at h
  next hsplit =>
    cases h
    have hlong : 6 < run.length := by simpa using (Bool.and_eq_true_iff.mp hsplit).1
    refine ⟨?_, run.drop (run.length - 6), (List.take_append_drop _ _).symm, ?_, rfl⟩
    · rw [Ne, List.take_eq_nil_iff]
      rintro (hzero | rfl)
      · omega
      · cases hlong
    · rw [Ne, List.drop_eq_nil_iff]
      omega
  next => cases h

/-- Behind a name stand its column list, if it has one, and the value lists. -/
theorem listed_eq_some {table : List Char}
    (h : takeInsertion?.listed run after = some (table, columns, groups)) :
    table = run ∧ groups.head? = some '(' ∧ groups.getLast? = some ')' ∧
      ∃ middle keyword, ListsColumns columns middle ∧ WritesValues keyword ∧
        skipChar nameMark after = middle ++ (keyword ++ groups) := by
  simp only [takeInsertion?.listed, Option.bind_eq_bind, Option.bind_eq_some_iff] at h
  obtain ⟨⟨list, behind⟩, hcolumns, lists, hgroups, heq⟩ := h
  cases heq
  obtain ⟨middle, listsColumns, hafter⟩ := takeColumns?_eq_some hcolumns
  obtain ⟨blanks, keyword, hblanks, hkeyword, rfl, hfirst, hlast⟩ := takeGroups?_eq_some hgroups
  refine ⟨rfl, hfirst, hlast, middle ++ blanks, keyword, ?_, hkeyword, by simpa using hafter⟩
  cases listsColumns with
  | absent areBlanks => exact .absent (areBlanks.append hblanks)
  | given hbefore closed hbetween =>
      simpa using ListsColumns.given hbefore closed (hbetween.append hblanks)

/-- A run of word characters may hold both the name and the keyword. -/
theorem runTogether_eq_some {table : List Char} (hrun : ∀ c ∈ run, isWord c = true)
    (h : takeInsertion?.runTogether run after = some (table, columns, groups)) :
    columns = none ∧ groups.head? = some '(' ∧ groups.getLast? = some ')' ∧ table ≠ [] ∧
      (∀ c ∈ table, isWord c = true) ∧
      ∃ keyword, WritesValues keyword ∧ run ++ after = table ++ (keyword ++ groups) := by
  simp only [takeInsertion?.runTogether, Option.bind_eq_bind, Option.bind_eq_some_iff] at h
  obtain ⟨⟨name, behind⟩, htable, lists, hgroups, heq⟩ := h
  cases heq
  obtain ⟨hname, word, rfl, hwordne, rfl⟩ := splitTable?_eq_some htable
  obtain ⟨blanks, keyword, hblanks, hkeyword, hbehind, hfirst, hlast⟩ := takeGroups?_eq_some hgroups
  have hnothing : blanks = [] := by
    cases blanks with
    | nil => rfl
    | cons c blanks =>
        obtain ⟨d, word, rfl⟩ := List.exists_cons_of_ne_nil hwordne
        obtain ⟨rfl, -⟩ := List.cons_eq_cons.mp hbehind
        have hblank := not_isBlank_of_isWord (hrun d (by simp))
        rw [hblanks d List.mem_cons_self] at hblank
        cases hblank
  have hsplit : word ++ after = keyword ++ groups := by simpa [hnothing] using hbehind
  refine ⟨rfl, hfirst, hlast, hname, fun c hc => hrun c (by simp [hc]), keyword, hkeyword, ?_⟩
  rw [List.append_assoc, hsplit]

/-- The parts of an insertion are found where they are written. -/
theorem takeInsertion?_eq_some {table : List Char}
    (h : takeInsertion? text = some (table, columns, groups)) :
    groups.head? = some '(' ∧ groups.getLast? = some ')' ∧ ∃ head, text = head ++ groups ∧
      (IntroducesValues (String.ofList table) columns head ∨
        columns = none ∧ RunsTogether (String.ofList table) head) := by
  simp only [takeInsertion?, Option.bind_eq_bind, Option.bind_eq_some_iff] at h
  obtain ⟨named, ⟨spaced, hphrase, hblanks⟩, ⟨run, after⟩, hrun, hparts⟩ := h
  obtain ⟨phrase, hwritten, rfl⟩ := afterPhrase?_eq_some (by decide) hphrase
  obtain ⟨gap, isGap, rfl⟩ := afterBlanks?_eq_some hblanks
  obtain ⟨opening, hopening, hnamed⟩ := skipChar_eq nameMark named
  obtain ⟨hsplit, hne, hword, hend⟩ := takeRun?_eq_some_iff.mp hrun
  rw [hsplit] at hnamed
  have hfront : ∀ name closing : List Char, name ≠ [] → (∀ c ∈ name, isWord c = true) →
      closing ∈ [[], [nameMark]] → Written (keywords ["insert", "into"] ++
        [.name (String.ofList name)]) (phrase ++ gap ++ (opening ++ name ++ closing)) := by
    intro name closing hname hchars hclosing
    refine hwritten.append isGap (.last ⟨⟨by simpa using hname, by simpa using hchars⟩, opening,
      hopening, closing, hclosing, by simp⟩)
  rcases Option.or_eq_some_iff.mp hparts with hlisted | ⟨-, htogether⟩
  · obtain ⟨rfl, hfirst, hlast, middle, keyword, listsColumns, hkeyword, hskipped⟩ :=
      listed_eq_some hlisted
    obtain ⟨closing, hclosing, hafter⟩ := skipChar_eq nameMark after
    rw [hskipped] at hafter
    have apart : middle ≠ [] ∨
        (phrase ++ gap ++ (opening ++ table ++ closing)).getLast? = some nameMark := by
      simp only [List.mem_cons, List.not_mem_nil, or_false] at hclosing
      rcases hclosing with rfl | rfl
      · refine .inl ?_
        rintro rfl
        obtain ⟨c, later, rfl, hc⟩ := hkeyword.exists_cons
        have hnot := hend c (by rw [hafter]; rfl)
        rw [hc] at hnot
        cases hnot
      · exact .inr (by simp [← List.append_assoc])
    refine ⟨hfirst, hlast, _, ?_,
      .inl (.intro (hfront table closing hne hword hclosing) listsColumns apart hkeyword)⟩
    rw [hnamed, hafter]
    simp
  · obtain ⟨rfl, hfirst, hlast, hname, hchars, keyword, hkeyword, hsplit⟩ :=
      runTogether_eq_some hword htogether
    refine ⟨hfirst, hlast, _, ?_, .inr ⟨rfl, .intro (hfront table [] hname hchars (by simp)) hkeyword⟩⟩
    rw [hnamed, hsplit]
    simp

/-- Behind a name that is taken, the column list and the value lists are. -/
theorem takeInsertion?_of_takeSpacedName? {table : String}
    (hname : (afterPhrase? ["insert", "into"] text).bind takeSpacedName? = some (table, rest))
    (hcolumns : takeColumns? rest = some (columns, after))
    (hgroups : takeGroups? after = some groups) :
    takeInsertion? text = some (table.toList, columns, groups) := by
  simp only [takeSpacedName?, takeName?, Option.bind_eq_some_iff, Option.map_eq_some_iff] at hname
  obtain ⟨spaced, hphrase, named, hblanks, ⟨run, behind⟩, hrun, heq⟩ := hname
  cases heq
  simp only [takeInsertion?, takeInsertion?.listed, hphrase, hblanks, hrun, hcolumns, hgroups,
    Option.bind_eq_bind, Option.bind_some, Option.some_or, String.toList_ofList]

/-- An insertion that is written apart has the parts that are written. -/
theorem takeInsertion?_of_introducesValues {table : String} {head : List Char}
    (introduces : IntroducesValues table columns head) (hfirst : groups.head? = some '(')
    (hlast : groups.getLast? = some ')') :
    takeInsertion? (head ++ groups) = some (table.toList, columns, groups) := by
  cases introduces with
  | @intro front middle keyword written listsColumns apart hkeyword =>
      have hbehind : (∀ c ∈ (middle ++ (keyword ++ groups)).head?,
          isWord c = false ∧ c ≠ nameMark) ∨ front.getLast? = some nameMark := by
        rcases apart with hmiddle | marked
        · obtain ⟨c, later, rfl⟩ := List.exists_cons_of_ne_nil hmiddle
          exact .inl listsColumns.not_word_of_mem_head?
        · exact .inr marked
      have areKeywords : ∀ word ∈ ["insert", "into"], IsKeyword word := by decide
      have hname := takeSpacedName?_of_written areKeywords (List.cons_ne_nil _ _) written hbehind
      rw [List.append_assoc, List.append_assoc]
      cases listsColumns with
      | absent areBlanks =>
          obtain ⟨c, later, rfl, hword⟩ := hkeyword.exists_cons
          have nothing : AreBlanks [] := by simp [AreBlanks]
          exact takeInsertion?_of_takeSpacedName? hname (takeColumns?_none areBlanks hword)
            (takeGroups?_append nothing hkeyword hfirst hlast)
      | @given before list between hbefore closed hbetween =>
          rw [List.append_assoc, List.cons_append, List.append_assoc, List.cons_append] at hname ⊢
          exact takeInsertion?_of_takeSpacedName? hname (takeColumns?_list hbefore closed)
            (takeGroups?_append hbetween hkeyword hfirst hlast)

end Shape

end MockSql
