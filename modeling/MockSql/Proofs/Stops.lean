/-
# Recognisers stop at punctuation

A character that belongs to no word, no white space and no mark of a name ends whatever a recogniser
takes: what is recognised before it is recognised without it, and what stands behind it stays behind.
So a search of a text goes on behind such a character as if it began there.
-/

import MockSql.Proofs.Keywords

namespace MockSql

open MockSql.Text

/-- A character that neither a word nor white space nor a marked name goes on with. -/
structure IsStop (c : Char) : Prop where
  notWord : isWord c = false
  notBlank : isBlank c = false
  notMark : c ≠ nameMark

/-- A word of letters and low lines, at least one of them. -/
def IsPhraseWord (word : String) : Prop :=
  word.toList ≠ [] ∧ ∀ letter ∈ word.toList, letter ∈ '_' :: alphabet

instance (word : String) : Decidable (IsPhraseWord word) :=
  decidable_of_iff (word.toList ≠ [] ∧ word.toList.all ('_' :: alphabet).contains = true)
    (by simp [IsPhraseWord])

namespace Text

/-- Whatever stands for a character of such a word is a word character. -/
theorem isWord_of_isLetter_phrase {letter c : Char} (hletter : letter ∈ '_' :: alphabet)
    (h : isLetter letter c = true) : isWord c = true := by
  rcases List.mem_cons.mp hletter with rfl | hletter
  · rcases isLetter_eq_true h with rfl | rfl | ⟨hfar, -⟩
    · decide
    · decide
    · have hwords : farLetters.all isWord := by decide +kernel
      exact List.all_eq_true.mp hwords c hfar
  · exact isWord_of_isLetter hletter h

section Runs

variable {inRun : Char → Bool} {stop : Char}

/-- A run does not go on behind a character of another kind. -/
theorem takeWhile_append_stop (hstop : inRun stop = false) (text rest : List Char) :
    (text ++ stop :: rest).takeWhile inRun = text.takeWhile inRun := by
  induction text with
  | nil => simp [hstop]
  | cons c text ih => simp only [List.cons_append, List.takeWhile_cons, ih]

theorem dropWhile_append_stop (hstop : inRun stop = false) (text rest : List Char) :
    (text ++ stop :: rest).dropWhile inRun = text.dropWhile inRun ++ stop :: rest := by
  induction text with
  | nil => simp [hstop]
  | cons c text ih =>
      rw [List.cons_append, List.dropWhile_cons, List.dropWhile_cons, ih]
      split <;> rfl

theorem dropWhileEnd_append_stop (hstop : inRun stop = false) (text rest : List Char) :
    dropWhileEnd inRun (text ++ stop :: rest) = text ++ stop :: dropWhileEnd inRun rest := by
  have hreverse : (text ++ stop :: rest).reverse = rest.reverse ++ stop :: text.reverse := by simp
  rw [dropWhileEnd, hreverse, dropWhile_append_stop hstop, dropWhileEnd]
  simp

end Runs

section Stops

variable {stop : Char} {text : List Char} (isStop : IsStop stop) (rest : List Char)
include isStop

theorem afterKeyword?_stop {word : List Char} (areLetters : ∀ letter ∈ word, letter ∈ '_' :: alphabet) :
    afterKeyword? word (text ++ stop :: rest) =
      (afterKeyword? word text).map (· ++ stop :: rest) := by
  induction word generalizing text with
  | nil => rfl
  | cons letter word ih =>
      cases text with
      | nil =>
          have hnot : ¬ isLetter letter stop = true := by
            intro hletter
            have hword := isWord_of_isLetter_phrase (areLetters letter List.mem_cons_self) hletter
            rw [isStop.notWord] at hword
            cases hword
          have hnone : afterKeyword? (letter :: word) (stop :: rest) = none := by
            rw [afterKeyword?, if_neg hnot]
          exact hnone
      | cons c text =>
          rw [List.cons_append, afterKeyword?, afterKeyword?,
            ih fun other hother => areLetters other (List.mem_cons_of_mem _ hother)]
          split <;> rfl

theorem trimStart_stop : trimStart (text ++ stop :: rest) = trimStart text ++ stop :: rest :=
  dropWhile_append_stop isStop.notBlank text rest

theorem afterBlanks?_stop : afterBlanks? (text ++ stop :: rest) =
    (afterBlanks? text).map (· ++ stop :: rest) := by
  cases text with
  | nil => simp [afterBlanks?, isStop.notBlank]
  | cons c text =>
      rw [List.cons_append, afterBlanks?, afterBlanks?, trimStart_stop isStop]
      split <;> rfl

theorem afterPhrase?_stop {words : List String} (areKeywords : ∀ word ∈ words, IsPhraseWord word) :
    afterPhrase? words (text ++ stop :: rest) =
      (afterPhrase? words text).map (· ++ stop :: rest) := by
  induction words generalizing text with
  | nil => rfl
  | cons word words ih =>
      have hword : afterKeyword? word.toList (text ++ stop :: rest) =
          (afterKeyword? word.toList text).map (· ++ stop :: rest) :=
        afterKeyword?_stop isStop rest (areKeywords word List.mem_cons_self).2
      cases words with
      | nil => exact hword
      | cons next words =>
          simp only [afterPhrase?, hword]
          cases afterKeyword? word.toList text with
          | none => rfl
          | some after =>
              simp only [Option.map_some, Option.bind_some, afterBlanks?_stop isStop]
              cases afterBlanks? after with
              | none => rfl
              | some spaced =>
                  exact ih fun other hother => areKeywords other (List.mem_cons_of_mem _ hother)

theorem skipChar_stop : skipChar nameMark (text ++ stop :: rest) =
    skipChar nameMark text ++ stop :: rest := by
  cases text with
  | nil => simp [skipChar, isStop.notMark]
  | cons c text =>
      rw [List.cons_append, skipChar, skipChar]
      split <;> rfl

theorem takeRun?_stop : takeRun? isWord (text ++ stop :: rest) =
    (takeRun? isWord text).map (Prod.map id (· ++ stop :: rest)) := by
  rw [takeRun?, takeRun?, takeWhile_append_stop isStop.notWord, dropWhile_append_stop isStop.notWord]
  split <;> rfl

theorem takeName?_stop : takeName? (text ++ stop :: rest) =
    (takeName? text).map (Prod.map id (· ++ stop :: rest)) := by
  rw [takeName?, takeName?, skipChar_stop isStop, takeRun?_stop isStop]
  cases takeRun? isWord (skipChar nameMark text) with
  | none => rfl
  | some found => simp [skipChar_stop isStop]

theorem takeSpacedName?_stop : takeSpacedName? (text ++ stop :: rest) =
    (takeSpacedName? text).map (Prod.map id (· ++ stop :: rest)) := by
  rw [takeSpacedName?, takeSpacedName?, afterBlanks?_stop isStop]
  cases afterBlanks? text with
  | none => rfl
  | some spaced => exact takeName?_stop isStop rest

omit isStop in
theorem afterChar?_stop {expected : Char} (hne : stop ≠ expected) :
    afterChar? expected (text ++ stop :: rest) =
      (afterChar? expected text).map (· ++ stop :: rest) := by
  cases text with
  | nil => simp [afterChar?, hne]
  | cons c text =>
      rw [List.cons_append, afterChar?, afterChar?]
      split <;> rfl

/-- A search goes on behind a stop as if it began there, if what it looks for does not reach over the
stop. -/
theorem findFrom?_stop {α : Type} {recognise : List Char → Option α} {extend : α → α}
    (stops : ∀ text, recognise (text ++ stop :: rest) = (recognise text).map extend)
    (hempty : recognise [] = none) (afterWord : Bool) :
    findFrom? recognise afterWord (text ++ stop :: rest) =
      ((findFrom? recognise afterWord text).map extend).or (findFrom? recognise false rest) := by
  induction text generalizing afterWord with
  | nil =>
      have hhere : recognise (stop :: rest) = none := by simpa [hempty] using stops []
      simp only [List.nil_append, findFrom?, hhere, hempty, isStop.notWord, ite_self, Option.none_or,
        Option.map_none]
  | cons c text ih =>
      have hhere := stops (c :: text)
      rw [List.cons_append] at hhere
      rw [List.cons_append, findFrom?, findFrom?, hhere, ih]
      cases afterWord with
      | true => simp only [if_true, Option.none_or]
      | false =>
          cases recognise (c :: text) with
          | none => simp only [Bool.false_eq_true, if_false, Option.map_none, Option.none_or]
          | some found => rfl

theorem startsWithWord_stop : startsWithWord (text ++ stop :: rest) = startsWithWord text := by
  cases text with
  | nil => exact isStop.notWord
  | cons c text => rfl

/-- A phrase stands before a stop or behind it. -/
theorem hasPhrase_stop {word : String} {words : List String}
    (areKeywords : ∀ other ∈ word :: words, IsPhraseWord other) :
    hasPhrase (word :: words) (text ++ stop :: rest) =
      (hasPhrase (word :: words) text || hasPhrase (word :: words) rest) := by
  let whole : List Char → Option (List Char) :=
    fun rest => (afterPhrase? (word :: words) rest).filter fun after => !startsWithWord after
  have stops : ∀ text, whole (text ++ stop :: rest) = (whole text).map (· ++ stop :: rest) := by
    intro text
    simp only [whole, afterPhrase?_stop isStop rest areKeywords]
    cases afterPhrase? (word :: words) text with
    | none => rfl
    | some after =>
        simp only [Option.map_some, Option.filter_some, startsWithWord_stop isStop]
        split <;> rfl
  have hempty : whole [] = none := by
    obtain ⟨c, later, hword⟩ := List.exists_cons_of_ne_nil (areKeywords word List.mem_cons_self).1
    have hnone : afterKeyword? word.toList [] = none := by rw [hword, afterKeyword?]
    simp only [whole, afterPhrase?_eq_none words hnone, Option.filter_none]
  have hfound : findFrom? whole false (text ++ stop :: rest) = _ :=
    findFrom?_stop isStop rest stops hempty false
  rw [hasPhrase, hasPhrase, hasPhrase, findWord?, findWord?, findWord?, hfound, Option.isSome_or,
    Option.isSome_map]

end Stops

end Text

end MockSql
