/-
# Where an update is cut

An update is cut at the last place where a predicate begins. A predicate is white space, its keyword, a
column and an equals sign, and behind the sign the literal, which goes on to the end of the text:
whatever stands there belongs to the literal, unless another predicate begins in it.
-/

import MockSql.Proofs.FixedShapes
import MockSql.Proofs.Recognisers

namespace MockSql

open MockSql.Text

/-- A character that a name can be written with. -/
def isNameChar (c : Char) : Bool :=
  isWord c || c == nameMark

theorem isNameChar_of_isWord {c : Char} (hword : isWord c = true) : isNameChar c = true := by
  simp [isNameChar, hword]

theorem not_isNameChar_of_isBlank {c : Char} (hblank : isBlank c = true) : isNameChar c = false := by
  obtain ⟨hword, hmark⟩ := not_word_of_isBlank hblank
  simp [isNameChar, hword, hmark]

namespace WritesName

variable {name : String} {text : List Char}

theorem isNameChar (writes : WritesName name text) : ∀ c ∈ text, isNameChar c = true := by
  obtain ⟨isName, opening, hopening, closing, hclosing, rfl⟩ := writes
  have hmarks : ∀ marks ∈ [[], [nameMark]], ∀ c ∈ marks, MockSql.isNameChar c = true := by
    simp [MockSql.isNameChar]
  intro c hc
  simp only [List.mem_append] at hc
  rcases hc with (hc | hc) | hc
  · exact hmarks opening hopening c hc
  · exact isNameChar_of_isWord (isName.isWord_of_mem hc)
  · exact hmarks closing hclosing c hc

theorem ne_nil (writes : WritesName name text) : text ≠ [] := by
  have proper : (Part.name name).Proper := trivial
  exact Part.Writes.ne_nil proper writes

end WritesName

/-- The ways of writing the beginning of a predicate, up to its equals sign, behind the white space
before it. -/
inductive WritesSign (column : String) : List Char → Prop
  | intro {keyword gap name blanks : List Char} (spells : Spells "where".toList keyword)
      (isGap : IsGap gap) (writes : WritesName column name) (hblanks : AreBlanks blanks) :
      WritesSign column (keyword ++ (gap ++ (name ++ (blanks ++ ['=']))))

namespace Shape

variable {text before behind name blanks literal : List Char} {column : String}

theorem head?_equals : ∀ c ∈ ('=' :: behind).head?, isBlank c = false := by
  rintro c ⟨⟩
  decide +kernel

theorem not_isBlank_of_spells {keyword : List Char} (spells : Spells "where".toList keyword) :
    ∀ c ∈ keyword, isBlank c = false :=
  fun c hc => not_isBlank_of_isWord (Spells.isWord (by decide) spells c hc)

theorem not_isBlank_of_writesName (writes : WritesName column name) : ∀ c ∈ name, isBlank c = false :=
  fun c hc => not_isBlank_of_isSolid (writes.isSolid c hc)

/-- Behind characters other than white space nothing more of it belongs to what stands before. -/
theorem head?_append_of_forall (hne : name ≠ []) (hname : ∀ c ∈ name, isBlank c = false)
    (behind : List Char) : ∀ c ∈ (name ++ behind).head?, isBlank c = false := by
  obtain ⟨c, later, rfl⟩ := List.exists_cons_of_ne_nil hne
  rintro d ⟨⟩
  exact hname c List.mem_cons_self

/-- White space behind a name and the equals sign behind that do not belong to the name. -/
theorem head?_blanks_equals (hblanks : AreBlanks blanks) :
    ∀ c ∈ (blanks ++ '=' :: behind).head?, isNameChar c = false := by
  cases blanks with
  | nil =>
      rintro c ⟨⟩
      decide
  | cons d blanks =>
      rintro c ⟨⟩
      exact not_isNameChar_of_isBlank (hblanks d List.mem_cons_self)

/-- A predicate is recognised exactly where it is written, if its literal is not empty. -/
theorem takePredicate?_eq_some_iff : takePredicate? text = some (column, literal) ↔
    ∃ gap sign behind, IsGap gap ∧ WritesSign column sign ∧ text = gap ++ (sign ++ behind) ∧
      literal = trimStart behind ∧ literal ≠ [] := by
  constructor
  · intro h
    simp only [takePredicate?, Option.bind_eq_bind, Option.bind_eq_some_iff] at h
    obtain ⟨⟨other, unnamed⟩, ⟨after, ⟨spaced, hspaced, hkeyword⟩, hafter⟩, found, hfound, hresult⟩ := h
    obtain ⟨named, hgap, hname⟩ := Option.bind_eq_some_iff.mp hafter
    obtain ⟨behind, hbehind, rfl⟩ := Option.map_eq_some_iff.mp hfound
    obtain ⟨gap, isGap, rfl⟩ := afterBlanks?_eq_some hspaced
    obtain ⟨keyword, rfl, spells⟩ := afterKeyword?_eq_some_iff.mp hkeyword
    obtain ⟨between, isBetween, rfl⟩ := afterBlanks?_eq_some hgap
    obtain ⟨name, writes, rfl⟩ := takeName?_eq_some hname
    obtain ⟨blanks, hblanks, hunnamed⟩ := exists_trimStart unnamed
    rw [afterChar?_eq_some hbehind] at hunnamed
    split at hresult
    next => cases hresult
    next hne =>
      cases hresult
      refine ⟨gap, _, behind, isGap, .intro spells isBetween writes hblanks, ?_, rfl, ?_⟩
      · rw [hunnamed]
        simp
      · simpa using hne
  · rintro ⟨gap, _, behind, isGap, ⟨spells, isBetween, writes, hblanks⟩, rfl, rfl, hne⟩
    rename_i keyword between name blanks
    have hkeyword : ∀ rest, afterPhrase? ["where"] (keyword ++ rest) = some rest :=
      fun rest => afterKeyword?_eq_some_iff.mpr ⟨keyword, rfl, spells⟩
    have hkeywordFirst := head?_append_of_forall (by rintro rfl; cases spells)
      (not_isBlank_of_spells spells)
    have hnameFirst := head?_append_of_forall writes.ne_nil (not_isBlank_of_writesName writes)
    have hname : takeName? (name ++ (blanks ++ '=' :: behind)) = some (column, blanks ++ '=' :: behind) := by
      refine takeName?_append writes fun c hc => ?_
      simpa [isNameChar] using head?_blanks_equals hblanks c hc
    have hempty : (trimStart behind).isEmpty = false := by simpa using hne
    simp only [takePredicate?, takeSpacedName?, List.append_assoc, List.cons_append,
      List.nil_append, afterBlanks?_append isGap (hkeywordFirst _), hkeyword,
      afterBlanks?_append isBetween (hnameFirst _), hname, trimStart_append hblanks head?_equals,
      afterChar?, Option.bind_eq_bind, Option.bind_some, Option.map_some, beq_self_eq_true, if_true,
      hempty, Bool.false_eq_true, if_false]

/-- White space is not cut if what stands behind it is neither a predicate nor cut itself. -/
theorem cutAtPredicate?_blanks (hblanks : AreBlanks blanks)
    (hfirst : ∀ c ∈ text.head?, isBlank c = false)
    (hnone : (afterPhrase? ["where"] text).bind takeSpacedName? = none)
    (quiet : cutAtPredicate? text = none) : cutAtPredicate? (blanks ++ text) = none := by
  induction blanks with
  | nil => exact quiet
  | cons c blanks ih =>
      have hlater : AreBlanks blanks := fun d hd => hblanks d (List.mem_cons_of_mem _ hd)
      have isGap : IsGap (c :: blanks) := ⟨List.cons_ne_nil _ _, hblanks⟩
      have hspaced : afterBlanks? (c :: (blanks ++ text)) = some text :=
        afterBlanks?_append isGap hfirst
      have hpredicate : takePredicate? (c :: (blanks ++ text)) = none := by
        simp only [takePredicate?, hspaced, Option.bind_some, hnone, Option.bind_eq_bind,
          Option.bind_none]
      exact cutAtPredicate?_cons_eq_none hpredicate (ih hlater)

/-- Behind the keyword of a predicate there is no other keyword with a name: where the name would
have to stand is the equals sign. -/
theorem takeSpacedName?_equals (writes : WritesName column name) (hblanks : AreBlanks blanks) :
    (afterPhrase? ["where"] (name ++ (blanks ++ '=' :: behind))).bind takeSpacedName? = none := by
  rw [Option.eq_none_iff_forall_ne_some]
  rintro ⟨other, rest⟩ h
  obtain ⟨after, hafter, hname⟩ := Option.bind_eq_some_iff.mp h
  obtain ⟨spaced, hspaced, htaken⟩ := Option.bind_eq_some_iff.mp hname
  obtain ⟨spelled, htext, spells⟩ := afterKeyword?_eq_some_iff.mp hafter
  obtain ⟨gap, isGap, rfl⟩ := afterBlanks?_eq_some hspaced
  obtain ⟨named, hnamed, rfl⟩ := takeName?_eq_some htaken
  have hspelled : ∀ c ∈ spelled, isNameChar c = true :=
    fun c hc => isNameChar_of_isWord (Spells.isWord (by decide) spells c hc)
  have hgap : ∀ c ∈ (gap ++ (named ++ rest)).head?, isNameChar c = false := by
    obtain ⟨d, later, rfl⟩ := List.exists_cons_of_ne_nil isGap.1
    rintro c ⟨⟩
    exact not_isNameChar_of_isBlank (isGap.2 d List.mem_cons_self)
  have hbehind : blanks ++ '=' :: behind = gap ++ (named ++ rest) := by
    have hdropped := congrArg (List.dropWhile isNameChar) htext
    rwa [dropWhile_run_append writes.isNameChar (head?_blanks_equals hblanks),
      dropWhile_run_append hspelled hgap] at hdropped
  have hnames : '=' :: behind = named ++ rest := by
    have hdropped := congrArg trimStart hbehind
    rwa [trimStart_append hblanks head?_equals, trimStart_append isGap.2
      (head?_append_of_forall hnamed.ne_nil (not_isBlank_of_writesName hnamed) rest)] at hdropped
  obtain ⟨c, later, rfl⟩ := List.exists_cons_of_ne_nil hnamed.ne_nil
  obtain ⟨rfl, -⟩ := List.cons_eq_cons.mp hnames
  exact absurd (hnamed.isNameChar '=' List.mem_cons_self) (by decide)

/-- So in the beginning of a predicate no other predicate begins. -/
theorem cutAtPredicate?_sign {sign : List Char} (hsign : WritesSign column sign)
    (quiet : cutAtPredicate? behind = none) : cutAtPredicate? (sign ++ behind) = none := by
  cases hsign with
  | @intro keyword gap name blanks spells isGap writes hblanks =>
      have solid : ∀ c ∈ ['='], isBlank c = false := by decide +kernel
      have hequals : cutAtPredicate? ('=' :: behind) = none :=
        cutAtPredicate?_append_eq_none solid quiet
      have hafter : cutAtPredicate? (blanks ++ '=' :: behind) = none :=
        cutAtPredicate?_blanks hblanks head?_equals rfl hequals
      have hname : cutAtPredicate? (name ++ (blanks ++ '=' :: behind)) = none :=
        cutAtPredicate?_append_eq_none (not_isBlank_of_writesName writes) hafter
      have hgap : cutAtPredicate? (gap ++ (name ++ (blanks ++ '=' :: behind))) = none :=
        cutAtPredicate?_blanks isGap.2
          (head?_append_of_forall writes.ne_nil (not_isBlank_of_writesName writes) _)
          (takeSpacedName?_equals writes hblanks) hname
      simpa only [List.append_assoc, List.cons_append, List.nil_append] using
        cutAtPredicate?_append_eq_none (not_isBlank_of_spells spells) hgap

/-- A text is cut where a predicate begins behind which no other does. -/
theorem cutAtPredicate?_eq_some_last {predicate : String × List Char}
    (h : cutAtPredicate? text = some (before, predicate)) :
    ∃ c rest, text = before ++ c :: rest ∧ takePredicate? (c :: rest) = some predicate ∧
      cutAtPredicate? rest = none := by
  induction text generalizing before with
  | nil => cases h
  | cons c text ih =>
      rw [cutAtPredicate?] at h
      split at h
      next front found hcut =>
        cases h
        obtain ⟨d, rest, rfl, hrest⟩ := ih hcut
        exact ⟨d, rest, rfl, hrest⟩
      next hquiet =>
        obtain ⟨found, hfound, heq⟩ := Option.map_eq_some_iff.mp h
        cases heq
        exact ⟨c, text, rfl, hfound, hquiet⟩

/-- A text is cut exactly before the white space of its last predicate, of which one character is left:
with more, the predicate would begin later. -/
theorem cutAtPredicate?_eq_some_iff : cutAtPredicate? text = some (before, column, literal) ↔
    ∃ blank sign behind, isBlank blank = true ∧ WritesSign column sign ∧
      text = before ++ blank :: (sign ++ behind) ∧ cutAtPredicate? behind = none ∧
      literal = trimStart behind ∧ literal ≠ [] := by
  constructor
  · intro h
    obtain ⟨c, rest, rfl, hpredicate, hquiet⟩ := cutAtPredicate?_eq_some_last h
    obtain ⟨gap, sign, behind, isGap, hsign, hsplit, hliteral, hne⟩ :=
      takePredicate?_eq_some_iff.mp hpredicate
    obtain ⟨d, gap, rfl⟩ := List.exists_cons_of_ne_nil isGap.1
    obtain ⟨rfl, rfl⟩ := List.cons_eq_cons.mp hsplit
    have hnone := cutAtPredicate?_eq_none_iff.mp hquiet
    have hsingle : gap = [] := by
      by_contra hmore
      have hlater : takePredicate? (gap ++ (sign ++ behind)) = some (column, literal) :=
        takePredicate?_eq_some_iff.mpr ⟨gap, sign, behind,
          ⟨hmore, fun e he => isGap.2 e (List.mem_cons_of_mem _ he)⟩, hsign, rfl, hliteral, hne⟩
      have hno := hnone _ List.suffix_rfl
      rw [List.append_eq, hlater] at hno
      cases hno
    subst hsingle
    refine ⟨c, sign, behind, isGap.2 c List.mem_cons_self, hsign, rfl, ?_, hliteral, hne⟩
    exact cutAtPredicate?_eq_none_iff.mpr fun later hlater =>
      hnone later (hlater.trans (List.suffix_append sign behind))
  · rintro ⟨blank, sign, behind, hblank, hsign, rfl, hquiet, hliteral, hne⟩
    have hpredicate : takePredicate? (blank :: (sign ++ behind)) = some (column, literal) :=
      takePredicate?_eq_some_iff.mpr ⟨[blank], sign, behind,
        ⟨List.cons_ne_nil _ _, by simpa using hblank⟩, hsign, rfl, hliteral, hne⟩
    have hcut : cutAtPredicate? (blank :: (sign ++ behind)) = some ([], column, literal) := by
      rw [cutAtPredicate?, cutAtPredicate?_sign hsign hquiet, hpredicate]
      rfl
    simpa using cutAtPredicate?_append before hcut

/-- Behind some white space comes one character of assignments, and then a text that is cut. -/
theorem takeAssignments?_eq_some {list : List Char} {predicate : String × List Char}
    (h : takeAssignments? text = some (list, predicate)) :
    ∃ gap c rest front, IsGap gap ∧ text = gap ++ c :: rest ∧ list = c :: front ∧
      cutAtPredicate? rest = some (front, predicate) := by
  induction text with
  | nil => cases h
  | cons blank text ih =>
      rw [takeAssignments?] at h
      split at h
      next hblank =>
        rcases Option.or_eq_some_iff.mp h with hlater | ⟨-, hhere⟩
        · obtain ⟨gap, c, rest, front, isGap, rfl, hlist, hcut⟩ := ih hlater
          exact ⟨blank :: gap, c, rest, front, ⟨List.cons_ne_nil _ _,
            List.forall_mem_cons.mpr ⟨hblank, isGap.2⟩⟩, rfl, hlist, hcut⟩
        · cases text with
          | nil => cases hhere
          | cons c rest =>
              obtain ⟨⟨front, found⟩, hcut, heq⟩ := Option.map_eq_some_iff.mp hhere
              cases heq
              exact ⟨[blank], c, rest, front, ⟨List.cons_ne_nil _ _, by simpa using hblank⟩, rfl, rfl,
                hcut⟩
      next => cases h

/-- Assignments that do not begin with white space are taken as they are written. -/
theorem takeAssignments?_append {c : Char} {gap rest front : List Char}
    {predicate : String × List Char} (isGap : IsGap gap) (hc : isBlank c = false)
    (hcut : cutAtPredicate? rest = some (front, predicate)) :
    takeAssignments? (gap ++ c :: rest) = some (c :: front, predicate) := by
  obtain ⟨hne, hblanks⟩ := isGap
  induction gap with
  | nil => exact absurd rfl hne
  | cons blank gap ih =>
      have hblank := hblanks blank List.mem_cons_self
      cases gap with
      | nil =>
          have hnone : takeAssignments? (c :: rest) = none := by simp [takeAssignments?, hc]
          rw [List.cons_append, takeAssignments?, if_pos hblank, List.nil_append, hnone,
            Option.none_or, takeAssignments?.cutAfterOne?, hcut]
          rfl
      | cons next gap =>
          have hlater := ih (List.cons_ne_nil _ _) fun d hd => hblanks d (List.mem_cons_of_mem _ hd)
          rw [List.cons_append, takeAssignments?, if_pos hblank, hlater, Option.some_or]

end Shape

end MockSql
