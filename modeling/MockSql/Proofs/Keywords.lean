/-
# Keywords, gaps and written names

What the recognisers of a phrase take off a text, exactly. A keyword takes a text that spells it, in
any case; every character spells one letter at most, so a text does not begin with two keywords that
differ in a letter. White space is taken as far as it goes. A name is taken with the mark on either
side of it, if nothing behind it could belong to it.
-/

import Mathlib.Data.List.Forall2
import MockSql.Proofs.Names

namespace MockSql

open MockSql.Text

namespace Text

/-- The letters of keywords. -/
def alphabet : List Char :=
  "abcdefghijklmnopqrstuvwxyz".toList

/-- The characters beyond the first 128 that stand for letters. -/
def farLetters : List Char :=
  ['ſ', 'ı', 'İ', '\u212a']

/-- The letter that a character stands for. -/
def letterOf (c : Char) : Char :=
  if c == 'ſ' then 's'
  else if c == 'ı' || c == 'İ' then 'i'
  else if c == '\u212a' then 'k'
  else c.toLower

theorem isLetter_eq_true {letter c : Char} (h : isLetter letter c = true) :
    c = letter ∨ c = letter.toUpper ∨ c ∈ farLetters ∧ letterOf c = letter := by
  simp only [isLetter, Bool.or_eq_true, Bool.and_eq_true, beq_iff_eq] at h
  rcases h with (((rfl | rfl) | ⟨rfl, rfl⟩) | ⟨rfl, rfl | rfl⟩) | ⟨rfl, rfl⟩
  · exact .inl rfl
  · exact .inr (.inl rfl)
  all_goals exact .inr (.inr ⟨by decide, by decide⟩)

/-- A character stands for one letter only. -/
theorem letterOf_eq {letter c : Char} (hletter : letter ∈ alphabet)
    (h : isLetter letter c = true) : letterOf c = letter := by
  have hcases : alphabet.all fun letter =>
      letterOf letter = letter ∧ letterOf letter.toUpper = letter := by decide
  have hfirst := of_decide_eq_true (List.all_eq_true.mp hcases letter hletter)
  rcases isLetter_eq_true h with rfl | rfl | ⟨-, hfar⟩
  · exact hfirst.1
  · exact hfirst.2
  · exact hfar

/-- Whatever stands for a letter is a word character. -/
theorem isWord_of_isLetter {letter c : Char} (hletter : letter ∈ alphabet)
    (h : isLetter letter c = true) : isWord c = true := by
  have hcases : alphabet.all fun letter => isWord letter && isWord letter.toUpper := by decide
  have hfar : farLetters.all isWord := by decide +kernel
  have hboth := Bool.and_eq_true_iff.mp (List.all_eq_true.mp hcases letter hletter)
  rcases isLetter_eq_true h with rfl | rfl | ⟨hmem, -⟩
  · exact hboth.1
  · exact hboth.2
  · exact List.all_eq_true.mp hfar c hmem

end Text

/-- A word of letters, at least one of them. -/
def IsKeyword (word : String) : Prop :=
  word.toList ≠ [] ∧ ∀ letter ∈ word.toList, letter ∈ alphabet

instance (word : String) : Decidable (IsKeyword word) :=
  decidable_of_iff (word.toList ≠ [] ∧ word.toList.all alphabet.contains = true)
    (by simp [IsKeyword])

/-- A text that spells a word: each of its characters stands for the letter in its place. -/
def Spells (word text : List Char) : Prop :=
  List.Forall₂ (fun letter c => isLetter letter c = true) word text

instance (word text : List Char) : Decidable (Spells word text) :=
  inferInstanceAs (Decidable (List.Forall₂ _ word text))

namespace Text

variable {text rest : List Char}

/-- A keyword is recognised where a text begins by spelling it. -/
theorem afterKeyword?_eq_some_iff {word : List Char} : afterKeyword? word text = some rest ↔
    ∃ spelled, text = spelled ++ rest ∧ Spells word spelled := by
  induction word generalizing text with
  | nil =>
      constructor
      · rintro ⟨⟩
        exact ⟨[], rfl, .nil⟩
      · rintro ⟨_, rfl, ⟨⟩⟩
        rfl
  | cons letter word ih =>
      constructor
      · intro h
        cases text with
        | nil => cases h
        | cons c text =>
            rw [afterKeyword?] at h
            split at h
            next hletter =>
              obtain ⟨spelled, rfl, spells⟩ := ih.mp h
              exact ⟨c :: spelled, rfl, .cons hletter spells⟩
            next => cases h
      · rintro ⟨_, rfl, spells⟩
        obtain _ | ⟨hletter, spells⟩ := spells
        rw [List.cons_append, afterKeyword?, if_pos hletter]
        exact ih.mpr ⟨_, rfl, spells⟩

/-- Whether two words differ in a letter, neither being the beginning of the other. -/
def lettersDiffer : List Char → List Char → Bool
  | letter :: word, otherLetter :: other => letter != otherLetter || lettersDiffer word other
  | _, _ => false

/-- A text does not begin with two words that differ in a letter. -/
theorem afterKeyword?_eq_none {word other : List Char} (hword : ∀ letter ∈ word, letter ∈ alphabet)
    (hother : ∀ letter ∈ other, letter ∈ alphabet) (differ : lettersDiffer word other = true)
    (h : afterKeyword? word text = some rest) : afterKeyword? other text = none := by
  induction word generalizing other text with
  | nil => cases differ
  | cons letter word ih =>
      cases other with
      | nil => cases differ
      | cons otherLetter other =>
          cases text with
          | nil => cases h
          | cons c text =>
              rw [afterKeyword?] at h ⊢
              split at h
              next hletter =>
                split
                next hotherLetter =>
                  have hsame : letter = otherLetter :=
                    (letterOf_eq (hword letter List.mem_cons_self) hletter).symm.trans
                      (letterOf_eq (hother otherLetter List.mem_cons_self) hotherLetter)
                  have hlater : lettersDiffer word other = true := by
                    simpa [lettersDiffer, hsame] using differ
                  exact ih (fun d hd => hword d (List.mem_cons_of_mem _ hd))
                    (fun d hd => hother d (List.mem_cons_of_mem _ hd)) hlater h
                next => rfl
              next => cases h

/-- Whether two phrases differ in a letter of a word that follows the same words in both. -/
def phrasesDiffer : List String → List String → Bool
  | word :: words, other :: others =>
    lettersDiffer word.toList other.toList || word == other && phrasesDiffer words others
  | _, _ => false

theorem afterPhrase?_eq_none {word : String} (words : List String)
    (h : afterKeyword? word.toList text = none) : afterPhrase? (word :: words) text = none := by
  cases words with
  | nil => exact h
  | cons next words => simp [afterPhrase?, h]

/-- The first word of a phrase is recognised where the phrase is. -/
theorem afterPhrase?_cons_eq_some {word : String} {words : List String}
    (h : afterPhrase? (word :: words) text = some rest) :
    ∃ after, afterKeyword? word.toList text = some after := by
  cases hword : afterKeyword? word.toList text with
  | some after => exact ⟨after, rfl⟩
  | none =>
      rw [afterPhrase?_eq_none words hword] at h
      cases h

/-- A text does not begin with two phrases that differ. -/
theorem not_both_phrases {words others : List String} (hwords : ∀ word ∈ words, IsKeyword word)
    (hothers : ∀ word ∈ others, IsKeyword word) (differ : phrasesDiffer words others = true)
    (h : afterPhrase? words text = some rest) : afterPhrase? others text = none := by
  induction words generalizing others text with
  | nil => cases differ
  | cons word words ih =>
      cases others with
      | nil => cases differ
      | cons other others =>
          obtain ⟨after, hafter⟩ := afterPhrase?_cons_eq_some h
          rw [phrasesDiffer, Bool.or_eq_true, Bool.and_eq_true, beq_iff_eq] at differ
          rcases differ with hletters | ⟨rfl, hlater⟩
          · exact afterPhrase?_eq_none others (afterKeyword?_eq_none
              (hwords word List.mem_cons_self).2 (hothers other List.mem_cons_self).2 hletters
              hafter)
          · cases words with
            | nil => cases hlater
            | cons next words =>
                cases others with
                | nil => cases hlater
                | cons otherNext others =>
                    simp only [afterPhrase?, hafter, Option.bind_some] at h ⊢
                    obtain ⟨spaced, hspaced, h⟩ := Option.bind_eq_some_iff.mp h
                    rw [hspaced, Option.bind_some]
                    exact ih (fun d hd => hwords d (List.mem_cons_of_mem _ hd))
                      (fun d hd => hothers d (List.mem_cons_of_mem _ hd)) hlater h

end Text

/-- White space between the parts of a statement, at least one character of it. -/
def IsGap (gap : List Char) : Prop :=
  gap ≠ [] ∧ ∀ c ∈ gap, isBlank c = true

namespace Text

variable {text rest : List Char}

/-- White space is recognised as far as it goes. -/
theorem afterBlanks?_eq_some (h : afterBlanks? text = some rest) :
    ∃ gap, IsGap gap ∧ text = gap ++ rest := by
  cases text with
  | nil => cases h
  | cons c text =>
      rw [afterBlanks?] at h
      split at h
      next hblank =>
        cases h
        refine ⟨c :: text.takeWhile isBlank, ⟨List.cons_ne_nil _ _, ?_⟩, ?_⟩
        · intro d hd
          rcases List.mem_cons.mp hd with rfl | hd
          · exact hblank
          · exact List.all_eq_true.mp List.all_takeWhile d hd
        · rw [List.cons_append, trimStart, List.takeWhile_append_dropWhile]
      next => cases h

theorem afterBlanks?_append {gap : List Char} (isGap : IsGap gap)
    (hrest : ∀ c ∈ rest.head?, isBlank c = false) : afterBlanks? (gap ++ rest) = some rest := by
  cases gap with
  | nil => exact absurd rfl isGap.1
  | cons c gap =>
      rw [List.cons_append, afterBlanks?, if_pos (isGap.2 c List.mem_cons_self), trimStart,
        List.dropWhile_append_of_pos fun d hd => isGap.2 d (List.mem_cons_of_mem _ hd),
        dropWhile_eq_self hrest]

end Text

/-- The ways of writing a name: as it is, with a mark before it, behind it, or on both sides. -/
def WritesName (name : String) (text : List Char) : Prop :=
  IsName name ∧ ∃ opening ∈ [[], [nameMark]], ∃ closing ∈ [[], [nameMark]],
    text = opening ++ name.toList ++ closing

namespace Text

variable {text rest : List Char} {name : String}

theorem skipChar_eq (mark : Char) (text : List Char) :
    ∃ skipped ∈ [[], [mark]], text = skipped ++ skipChar mark text := by
  cases text with
  | nil => exact ⟨[], by simp, rfl⟩
  | cons c text =>
      rw [skipChar]
      split
      next hmark => exact ⟨[mark], by simp, by rw [beq_iff_eq.mp hmark]; rfl⟩
      next => exact ⟨[], by simp, rfl⟩

theorem skipChar_append {mark : Char} {skipped : List Char} (hskipped : skipped ∈ [[], [mark]])
    (hrest : ∀ c ∈ rest.head?, c ≠ mark) : skipChar mark (skipped ++ rest) = rest := by
  simp only [List.mem_cons, List.not_mem_nil, or_false] at hskipped
  rcases hskipped with rfl | rfl
  · cases rest with
    | nil => rfl
    | cons c rest => simp [skipChar, hrest c rfl]
  · simp [skipChar]

/-- What is taken as a name is a way of writing it. -/
theorem takeName?_eq_some (h : takeName? text = some (name, rest)) :
    ∃ written, WritesName name written ∧ text = written ++ rest := by
  obtain ⟨⟨run, after⟩, hrun, heq⟩ := Option.map_eq_some_iff.mp h
  obtain ⟨opening, hopening, htext⟩ := skipChar_eq nameMark text
  obtain ⟨closing, hclosing, hafter⟩ := skipChar_eq nameMark after
  rw [takeRun?] at hrun
  split at hrun
  next => cases hrun
  next hrunning =>
    cases hrun
    cases heq
    have hsplit : skipChar nameMark text =
        (skipChar nameMark text).takeWhile isWord ++ (skipChar nameMark text).dropWhile isWord :=
      List.takeWhile_append_dropWhile.symm
    refine ⟨opening ++ (skipChar nameMark text).takeWhile isWord ++ closing,
      ⟨⟨?_, ?_⟩, opening, hopening, closing, hclosing, ?_⟩, ?_⟩
    · simpa using hrunning
    · simp
    · simp
    · rw [List.append_assoc, List.append_assoc, ← hafter, ← hsplit]
      exact htext

/-- A name is taken, however it is written, if nothing behind it could belong to it. -/
theorem takeName?_append {written : List Char} (writes : WritesName name written)
    (hrest : ∀ c ∈ rest.head?, isWord c = false ∧ c ≠ nameMark) :
    takeName? (written ++ rest) = some (name, rest) := by
  obtain ⟨isName, opening, hopening, closing, hclosing, rfl⟩ := writes
  obtain ⟨first, later, hname, hfirst⟩ := isName.exists_cons
  have hmark : isWord nameMark = false := by decide
  have hbehind : ∀ c ∈ (closing ++ rest).head?, isWord c = false := by
    simp only [List.mem_cons, List.not_mem_nil, or_false] at hclosing
    rcases hclosing with rfl | rfl
    · exact fun c hc => (hrest c hc).1
    · rintro c ⟨⟩
      exact hmark
  have hopened : skipChar nameMark (opening ++ (name.toList ++ (closing ++ rest))) =
      name.toList ++ (closing ++ rest) := by
    apply skipChar_append hopening
    rw [hname]
    rintro c ⟨⟩
    exact ne_of_isWord hfirst hmark
  have hclosed : skipChar nameMark (closing ++ rest) = rest :=
    skipChar_append hclosing fun c hc => (hrest c hc).2
  simp only [List.append_assoc, takeName?, hopened, isName.takeRun? hbehind, Option.map_some,
    hclosed, String.ofList_toList]

end Text

end MockSql
