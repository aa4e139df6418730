/-
# Names in a statement

A name made of word characters is read as far as it goes, and comes out of a column list as it was
put in: no word character is white space, a mark, a comma or a parenthesis.
-/

import MockSql.Proofs.Spelling
import MockSql.Statement.Shape.Rows

namespace MockSql

open MockSql.Text MockSql.Literal

/-- A name made of word characters, at least one of them. -/
def IsName (name : String) : Prop :=
  name.toList ≠ [] ∧ name.toList.all isWord = true

instance (name : String) : Decidable (IsName name) :=
  inferInstanceAs (Decidable (_ ∧ _))

namespace Text

/-- A run is taken if nothing behind it belongs to it. -/
theorem takeRun?_append {inRun : Char → Bool} {run rest : List Char}
    (hrun : ∀ c ∈ run, inRun c = true) (hne : run ≠ [])
    (hrest : ∀ c ∈ rest.head?, inRun c = false) :
    takeRun? inRun (run ++ rest) = some (run, rest) := by
  have hnonempty : run.isEmpty = false := List.isEmpty_eq_false_iff.mpr hne
  rw [takeRun?, takeWhile_run_append hrun hrest, dropWhile_run_append hrun hrest, hnonempty]
  rfl

/-- The code points of white space. -/
def blankCodes : List Nat :=
  blankRanges.flatMap fun range => List.range' range.1 (range.2 + 1 - range.1)

theorem mem_blankCodes_of_isBlank {c : Char} (hblank : isBlank c = true) :
    c.toNat ∈ blankCodes := by
  obtain ⟨range, hrange, hbounds⟩ := List.any_eq_true.mp hblank
  simp only [Bool.and_eq_true, decide_eq_true_eq] at hbounds
  refine List.mem_flatMap.mpr ⟨range, hrange, List.mem_range'_1.mpr ?_⟩
  omega

/-- No word character is white space. -/
theorem not_isBlank_of_isWord {c : Char} (hword : isWord c = true) : isBlank c = false := by
  have hcodes : ∀ code ∈ blankCodes, isWord (Char.ofNat code) = false := by decide +kernel
  cases hblank : isBlank c with
  | false => rfl
  | true =>
      have hnone := hcodes c.toNat (mem_blankCodes_of_isBlank hblank)
      rw [Char.ofNat_toNat, hword] at hnone
      cases hnone

/-- A word character is none of the characters around names in a statement. -/
theorem ne_of_isWord {c mark : Char} (hword : isWord c = true) (hmark : isWord mark = false) :
    c ≠ mark := by
  rintro rfl
  rw [hmark] at hword
  cases hword

/-- Nothing in a word counts where commas and parentheses do. -/
theorem isPlain_of_isWord {c : Char} (hword : isWord c = true) : isPlain c = true := by
  have hquotes : c ≠ singleQuote ∧ c ≠ doubleQuote :=
    ⟨ne_of_isWord hword (by decide), ne_of_isWord hword (by decide)⟩
  have hmarks : c ≠ '(' ∧ c ≠ ')' ∧ c ≠ ',' :=
    ⟨ne_of_isWord hword (by decide), ne_of_isWord hword (by decide),
      ne_of_isWord hword (by decide)⟩
  simp [isPlain, isQuote, hquotes, hmarks]

end Text

namespace IsName

variable {name : String}

theorem isWord_of_mem (isName : IsName name) {c : Char} (hc : c ∈ name.toList) :
    isWord c = true :=
  List.all_eq_true.mp isName.2 c hc

theorem ne_empty (isName : IsName name) : name ≠ "" := by
  rintro rfl
  exact isName.1 rfl

/-- A name has a first character, and that is a word character. -/
theorem exists_cons (isName : IsName name) :
    ∃ c rest, name.toList = c :: rest ∧ isWord c = true := by
  cases hname : name.toList with
  | nil => exact absurd hname isName.1
  | cons c rest => exact ⟨c, rest, rfl, isName.isWord_of_mem (hname ▸ List.mem_cons_self)⟩

/-- A name is read up to the space behind it. -/
theorem takeRun? (isName : IsName name) {rest : List Char}
    (hrest : ∀ c ∈ rest.head?, isWord c = false) :
    Text.takeRun? isWord (name.toList ++ rest) = some (name.toList, rest) :=
  takeRun?_append (fun _ hc => isName.isWord_of_mem hc) isName.1 hrest

theorem trim_toList (isName : IsName name) : trim name.toList = name.toList := by
  apply stripWhile_eq_self_of_forall
  intro c hc
  exact not_isBlank_of_isWord (isName.isWord_of_mem hc)

/-- A name between white space is its own bare form. -/
theorem bareName (isName : IsName name) {blanks : List Char}
    (hblanks : ∀ c ∈ blanks, isBlank c = true) :
    Text.bareName (blanks ++ name.toList) = name.toList := by
  rw [Text.bareName, trim, stripWhile_append hblanks, ← trim, isName.trim_toList]
  apply stripWhile_eq_self_of_forall
  intro c hc
  exact beq_eq_false_iff_ne.mpr (ne_of_isWord (isName.isWord_of_mem hc) (by decide))

/-- White space behind a name does not belong to it either. -/
theorem bareName_append (isName : IsName name) {blanks : List Char}
    (hblanks : ∀ c ∈ blanks, isBlank c = true) :
    Text.bareName (name.toList ++ blanks) = name.toList := by
  rw [Text.bareName, trim, stripWhile_append_outer hblanks, ← trim, ← Text.bareName]
  exact @bareName name isName [] (by simp)

/-- A name starts with a word character, so neither white space nor a mark is skipped before it. -/
theorem trimStart_append (isName : IsName name) (rest : List Char) :
    trimStart (name.toList ++ rest) = name.toList ++ rest := by
  obtain ⟨c, later, hname, hword⟩ := isName.exists_cons
  apply dropWhile_eq_self
  rw [hname]
  rintro d ⟨⟩
  exact not_isBlank_of_isWord hword

theorem skipChar_append (isName : IsName name) (rest : List Char) :
    skipChar nameMark (name.toList ++ rest) = name.toList ++ rest := by
  obtain ⟨c, later, hname, hword⟩ := isName.exists_cons
  have hne : c ≠ nameMark := ne_of_isWord hword (by decide)
  simp [hname, skipChar, hne]

/-- A name behind a space is read up to the space behind it. -/
theorem takeSpacedName? (isName : IsName name) (rest : List Char) :
    Text.takeSpacedName? (' ' :: (name.toList ++ ' ' :: rest)) = some (name, ' ' :: rest) := by
  have hblanks : afterBlanks? (' ' :: (name.toList ++ ' ' :: rest)) =
      some (trimStart (name.toList ++ ' ' :: rest)) := rfl
  have hrun : Text.takeRun? isWord (name.toList ++ ' ' :: rest) = some (name.toList, ' ' :: rest) :=
    isName.takeRun? (by rintro c ⟨⟩; decide)
  have hafter : skipChar nameMark (' ' :: rest) = ' ' :: rest := rfl
  simp only [Text.takeSpacedName?, hblanks, isName.trimStart_append, Option.bind_some, takeName?,
    isName.skipChar_append, hrun, Option.map_some, hafter, String.ofList_toList]

end IsName

/-- Names as a list. -/
def nameList (names : List String) : List Char :=
  commaList (names.map String.toList)

theorem nameList_cons_cons (name next : String) (rest : List String) :
    nameList (name :: next :: rest) = name.toList ++ ',' :: ' ' :: nameList (next :: rest) := by
  simp [nameList]

/-- Names that are put together have no characters but word characters and those between them. -/
theorem not_mem_intercalate {names : List String} (areNames : ∀ name ∈ names, IsName name)
    {separator : List Char} {mark : Char} (hmark : isWord mark = false)
    (hseparator : mark ∉ separator) : mark ∉ separator.intercalate (names.map String.toList) := by
  intro hmem
  rcases mem_intercalate hmem with hmem | ⟨piece, hpiece, hmem⟩
  · exact hseparator hmem
  · obtain ⟨name, hname, rfl⟩ := List.mem_map.mp hpiece
    exact ne_of_isWord ((areNames name hname).isWord_of_mem hmem) hmark rfl

/-- There is no parenthesis in a list of names. -/
theorem not_mem_nameList {names : List String} (areNames : ∀ name ∈ names, IsName name) :
    ∀ c ∈ nameList names, c ≠ ')' := by
  rintro c hc rfl
  exact not_mem_intercalate areNames (by decide) (by decide) hc

/-- A column list is read as the names in it. All names but the first come with the space behind the comma
before them. -/
theorem Shape.columnNames_nameList (blanks : List Char) {names : List String}
    (hnonempty : names ≠ []) (areNames : ∀ name ∈ names, IsName name)
    (hblanks : ∀ c ∈ blanks, isBlank c = true) (hcomma : ',' ∉ blanks) :
    columnNames (blanks ++ nameList names) = names := by
  induction names generalizing blanks with
  | nil => exact absurd rfl hnonempty
  | cons name rest ih =>
      have isName := areNames name List.mem_cons_self
      have hbare := isName.bareName hblanks
      have hfree : ',' ∉ blanks ++ name.toList := by
        intro hmem
        rcases List.mem_append.mp hmem with hmem | hmem
        · exact hcomma hmem
        · exact ne_of_isWord (isName.isWord_of_mem hmem) (by decide) rfl
      have htrim : (trim (blanks ++ name.toList)).isEmpty = false := by
        rw [trim, stripWhile_append hblanks, ← trim, isName.trim_toList]
        exact List.isEmpty_eq_false_iff.mpr isName.1
      cases rest with
      | nil =>
          have hlist : nameList [name] = name.toList := commaList_singleton _
          rw [columnNames, hlist, List.splitOn_eq_singleton hfree]
          simp [htrim, hbare]
      | cons next later =>
          have hspace : ∀ c ∈ [' '], isBlank c = true := forall_mem_of_all (by decide +kernel)
          have hrest := ih [' '] (List.cons_ne_nil _ _)
            (fun other hother => areNames other (List.mem_cons_of_mem _ hother)) hspace (by decide)
          rw [columnNames, nameList_cons_cons, ← List.append_assoc,
            List.splitOn_append_cons_self_of_not_mem hfree]
          rw [columnNames] at hrest
          simp only [List.filter_cons, htrim, Bool.not_false, if_true, List.map_cons, hbare,
            String.ofList_toList]
          exact congrArg _ hrest

end MockSql
