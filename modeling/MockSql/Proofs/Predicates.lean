/-
# Predicates in a text

A recogniser leaves the end of the text that it is given. A predicate takes its own equals sign
with it, so its literal has fewer of them; and the last predicate of a text is the place
where an update is cut.
-/

import MockSql.Proofs.Names

namespace MockSql

open MockSql.Text MockSql.Literal

namespace Text

variable {text rest : List Char}

theorem afterKeyword?_suffix {word : List Char} (h : afterKeyword? word text = some rest) :
    rest <:+ text := by
  induction word generalizing text with
  | nil =>
      cases h
      exact List.suffix_rfl
  | cons letter word ih =>
      cases text with
      | nil => cases h
      | cons c text =>
          rw [afterKeyword?] at h
          split at h
          next => exact (ih h).trans (List.suffix_cons c text)
          next => cases h

theorem afterBlanks?_suffix (h : afterBlanks? text = some rest) : rest <:+ text := by
  cases text with
  | nil => cases h
  | cons c text =>
      rw [afterBlanks?] at h
      split at h
      next =>
        cases h
        exact (List.dropWhile_suffix isBlank).trans (List.suffix_cons c text)
      next => cases h

theorem afterChar?_eq_some {expected : Char} (h : afterChar? expected text = some rest) :
    text = expected :: rest := by
  cases text with
  | nil => cases h
  | cons c text =>
      rw [afterChar?] at h
      split at h
      next hc =>
        cases h
        rw [beq_iff_eq.mp hc]
      next => cases h

theorem skipChar_suffix (skipped : Char) (text : List Char) : skipChar skipped text <:+ text := by
  cases text with
  | nil => exact List.suffix_rfl
  | cons c text =>
      rw [skipChar]
      split
      next => exact List.suffix_cons c text
      next => exact List.suffix_rfl

theorem takeSpacedName?_suffix {name : String} (h : Text.takeSpacedName? text = some (name, rest)) :
    rest <:+ text := by
  obtain ⟨spaced, hspaced, hname⟩ := Option.bind_eq_some_iff.mp h
  obtain ⟨⟨run, after⟩, hrun, heq⟩ := Option.map_eq_some_iff.mp hname
  cases heq
  have hafter : after <:+ skipChar nameMark spaced := by
    simp only [takeRun?] at hrun
    split at hrun
    next => cases hrun
    next =>
      cases hrun
      exact List.dropWhile_suffix isWord
  exact (skipChar_suffix nameMark after).trans
    (hafter.trans ((skipChar_suffix nameMark spaced).trans (afterBlanks?_suffix hspaced)))

/-- A keyword found at the start of a text does not reach past the first space. -/
theorem afterKeyword?_eq_some {word name rest after : List Char}
    (hword : ∀ letter ∈ word, isLetter letter ' ' = false)
    (h : afterKeyword? word (name ++ ' ' :: rest) = some after) :
    ∃ later, later <:+ name ∧ after = later ++ ' ' :: rest := by
  induction word generalizing name with
  | nil =>
      cases h
      exact ⟨name, List.suffix_rfl, rfl⟩
  | cons letter word ih =>
      cases name with
      | nil => simp [afterKeyword?, hword letter List.mem_cons_self] at h
      | cons c name =>
          rw [List.cons_append, afterKeyword?] at h
          split at h
          next =>
            obtain ⟨later, hlater, hafter⟩ :=
              ih (fun other hother => hword other (List.mem_cons_of_mem _ hother)) h
            exact ⟨later, hlater.trans (List.suffix_cons c name), hafter⟩
          next => cases h

end Text

namespace Shape

/-- Where the literal of a predicate stands. -/
theorem takePredicate?_eq_some {text literal : List Char} {column : String}
    (h : takePredicate? text = some (column, literal)) :
    ∃ after, '=' :: after <:+ text ∧ literal <:+ after := by
  simp only [takePredicate?, Option.bind_eq_bind, Option.bind_eq_some_iff] at h
  obtain ⟨⟨name, unnamed⟩, ⟨named, ⟨spaced, hspaced, hkeyword⟩, hname⟩, found, hfound, hresult⟩ := h
  obtain ⟨after, hafter, rfl⟩ := Option.map_eq_some_iff.mp hfound
  split at hresult
  next => cases hresult
  next =>
    cases hresult
    have hsign : '=' :: after <:+ unnamed := by
      rw [← afterChar?_eq_some hafter]
      exact List.dropWhile_suffix isBlank
    have hnamed : named <:+ text :=
      (afterKeyword?_suffix hkeyword).trans (afterBlanks?_suffix hspaced)
    exact ⟨after, hsign.trans ((takeSpacedName?_suffix hname).trans hnamed),
      List.dropWhile_suffix isBlank⟩

/-- The literal of a predicate has fewer equals signs than the predicate. -/
theorem count_lt_of_takePredicate? {text literal : List Char} {column : String}
    (h : takePredicate? text = some (column, literal)) : literal.count '=' < text.count '=' := by
  obtain ⟨after, htext, hliteral⟩ := takePredicate?_eq_some h
  calc literal.count '=' ≤ after.count '=' := hliteral.sublist.count_le '='
    _ < ('=' :: after).count '=' := by simp
    _ ≤ text.count '=' := htext.sublist.count_le '='

/-- A name with an equals sign behind it begins no predicate, not even if the name begins as the
keyword does: behind the keyword there would have to be another name. -/
theorem takePredicate?_name {column : String} (isName : IsName column) (rest : List Char) :
    takePredicate? (' ' :: (column.toList ++ ' ' :: '=' :: rest)) = none := by
  have hblanks : afterBlanks? (' ' :: (column.toList ++ ' ' :: '=' :: rest)) =
      some (trimStart (column.toList ++ ' ' :: '=' :: rest)) := rfl
  have hunnamed : ∀ after, afterPhrase? ["where"] (column.toList ++ ' ' :: '=' :: rest) =
      some after → takeSpacedName? after = none := by
    intro after hafter
    obtain ⟨later, hlater, rfl⟩ :=
      afterKeyword?_eq_some (forall_mem_of_all (by decide +kernel)) hafter
    cases later with
    | nil => rfl
    | cons c later =>
        have hword : isWord c = true :=
          isName.isWord_of_mem (hlater.subset List.mem_cons_self)
        simp [takeSpacedName?, afterBlanks?, not_isBlank_of_isWord hword]
  have hnone : ((afterBlanks? (' ' :: (column.toList ++ ' ' :: '=' :: rest))).bind
      (afterPhrase? ["where"])).bind takeSpacedName? = none := by
    rw [hblanks, isName.trimStart_append, Option.bind_some, Option.bind_eq_none_iff]
    exact hunnamed
  rw [takePredicate?, hnone]
  rfl

/-- A text has no place to be cut if no predicate begins in it. -/
theorem cutAtPredicate?_eq_none_iff {text : List Char} :
    cutAtPredicate? text = none ↔ ∀ rest, rest <:+ text → takePredicate? rest = none := by
  induction text with
  | nil =>
      refine iff_of_true rfl fun rest hrest => ?_
      rw [List.suffix_nil.mp hrest]
      rfl
  | cons c text ih =>
      rw [cutAtPredicate?]
      cases hcut : cutAtPredicate? text with
      | some cut =>
          refine iff_of_false (by simp) fun hnone => ?_
          have hlater := ih.mpr fun rest hrest => hnone rest (hrest.trans (List.suffix_cons c text))
          rw [hcut] at hlater
          cases hlater
      | none =>
          simp only [Option.map_eq_none_iff, List.suffix_cons_iff]
          constructor
          · rintro hfirst rest (rfl | hrest)
            · exact hfirst
            · exact ih.mp hcut rest hrest
          · intro hnone
            exact hnone (c :: text) (.inl rfl)

/-- What stands before the last predicate of a text stays before it. -/
theorem cutAtPredicate?_append {text before : List Char} {predicate : String × List Char}
    (front : List Char) (hcut : cutAtPredicate? text = some (before, predicate)) :
    cutAtPredicate? (front ++ text) = some (front ++ before, predicate) := by
  induction front with
  | nil => exact hcut
  | cons c front ih =>
      rw [List.cons_append, cutAtPredicate?, ih]
      rfl

/-- A text is not cut before characters other than white space. -/
theorem cutAtPredicate?_append_eq_none {front text : List Char}
    (hfront : ∀ c ∈ front, isBlank c = false) (hcut : cutAtPredicate? text = none) :
    cutAtPredicate? (front ++ text) = none := by
  induction front with
  | nil => exact hcut
  | cons c front ih =>
      have hlater := ih fun d hd => hfront d (List.mem_cons_of_mem _ hd)
      have hfirst : takePredicate? (c :: (front ++ text)) = none := by
        simp [takePredicate?, afterBlanks?, hfront c List.mem_cons_self]
      rw [List.cons_append, cutAtPredicate?, hlater, hfirst]
      rfl

/-- A text is not cut before white space behind which no predicate is recognised. -/
theorem cutAtPredicate?_cons_eq_none {c : Char} {text : List Char}
    (hfirst : takePredicate? (c :: text) = none) (hcut : cutAtPredicate? text = none) :
    cutAtPredicate? (c :: text) = none := by
  rw [cutAtPredicate?, hcut, hfirst]
  rfl

/-- A text is cut where some predicate begins. -/
theorem cutAtPredicate?_eq_some {text before : List Char} {predicate : String × List Char}
    (h : cutAtPredicate? text = some (before, predicate)) :
    ∃ rest, text = before ++ rest ∧ takePredicate? rest = some predicate := by
  induction text generalizing before with
  | nil => cases h
  | cons c text ih =>
      rw [cutAtPredicate?] at h
      split at h
      next front found hcut =>
        cases h
        obtain ⟨rest, rfl, hrest⟩ := ih hcut
        exact ⟨rest, rfl, hrest⟩
      next =>
        obtain ⟨found, hfound, heq⟩ := Option.map_eq_some_iff.mp h
        cases heq
        exact ⟨c :: text, rfl, hfound⟩

end Shape

end MockSql
