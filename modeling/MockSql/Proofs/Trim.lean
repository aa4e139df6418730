/-
# Trimmed texts and runs

Trimming takes off what it finds at the two ends. A text with nothing to take off stays as it is,
and a trimmed text is one with nothing to take off, so trimming it again does nothing. A run of
characters ends at the first character of another kind.
-/

import Mathlib.Data.List.DropRight
import MockSql.Text.Trim

namespace MockSql.Text

/-- What holds of all characters of a text is decided for these alone. -/
instance (priority := 2000) decidableForallText (text : List Char) (p : Char → Prop) [DecidablePred p] :
    Decidable (∀ c ∈ text, p c) :=
  List.decidableBAll p text

/-- And so is what holds of one that there may be. -/
instance (priority := 2000) decidableForallFound (found : Option Char) (p : Char → Prop) [DecidablePred p] :
    Decidable (∀ c ∈ found, p c) :=
  Option.decidableForallMem found

variable {isOuter : Char → Bool} {text : List Char}

/-- What is left when the end is dropped is the library's `List.rdropWhile`. -/
theorem dropWhileEnd_eq_rdropWhile (isOuter : Char → Bool) (text : List Char) :
    dropWhileEnd isOuter text = text.rdropWhile isOuter :=
  rfl

/-- Nothing is dropped from a text whose first character stays. -/
theorem dropWhile_eq_self (hfirst : ∀ c ∈ text.head?, isOuter c = false) :
    text.dropWhile isOuter = text := by
  refine List.dropWhile_eq_self_iff.mpr fun hpos => ?_
  simp [hfirst text[0] (by simp [List.head?_eq_getElem?, hpos])]

/-- Nothing is dropped from a text whose last character stays. -/
theorem rdropWhile_eq_self (hlast : ∀ c ∈ text.getLast?, isOuter c = false) :
    text.rdropWhile isOuter = text := by
  refine List.rdropWhile_eq_self_iff.mpr fun hne => ?_
  simp [hlast _ (List.getLast?_eq_getLast_of_ne_nil hne)]

/-- A text whose first and last characters stay is trimmed already. -/
theorem stripWhile_eq_self (hfirst : ∀ c ∈ text.head?, isOuter c = false)
    (hlast : ∀ c ∈ text.getLast?, isOuter c = false) : stripWhile isOuter text = text := by
  rw [stripWhile, dropWhile_eq_self hfirst, dropWhileEnd_eq_rdropWhile, rdropWhile_eq_self hlast]

/-- A text in which every character stays is trimmed already. -/
theorem stripWhile_eq_self_of_forall (hkept : ∀ c ∈ text, isOuter c = false) :
    stripWhile isOuter text = text := by
  apply stripWhile_eq_self
  · intro c hc
    exact hkept c (List.mem_of_mem_head? hc)
  · intro c hc
    exact hkept c (List.mem_of_mem_getLast? hc)

theorem head?_dropWhile (isOuter : Char → Bool) (text : List Char) :
    ∀ c ∈ (text.dropWhile isOuter).head?, isOuter c = false := by
  intro c hc
  have hnot := List.head?_dropWhile_not isOuter text
  rw [Option.mem_def.mp hc] at hnot
  exact hnot

theorem getLast?_rdropWhile (isOuter : Char → Bool) (text : List Char) :
    ∀ c ∈ (text.rdropWhile isOuter).getLast?, isOuter c = false := by
  intro c hc
  obtain ⟨hne, rfl⟩ := List.mem_getLast?_eq_getLast hc
  exact Bool.eq_false_iff.mpr (List.rdropWhile_last_not isOuter text hne)

/-- A text is what trimming takes off its two ends, with the trimmed text between. -/
theorem exists_stripWhile (isOuter : Char → Bool) (text : List Char) :
    ∃ before after, (∀ c ∈ before ++ after, isOuter c = true) ∧
      text = before ++ stripWhile isOuter text ++ after := by
  refine ⟨text.takeWhile isOuter, (text.dropWhile isOuter).rtakeWhile isOuter, ?_, ?_⟩
  · intro c hc
    exact (List.mem_append.mp hc).elim List.mem_takeWhile_imp List.mem_rtakeWhile_imp
  · rw [List.append_assoc, stripWhile, dropWhileEnd_eq_rdropWhile, List.rdropWhile_append_rtakeWhile,
      List.takeWhile_append_dropWhile]

/-- Characters of another kind are not trimmed off. -/
theorem mem_stripWhile {c : Char} (hmem : c ∈ text) (hc : isOuter c = false) :
    c ∈ stripWhile isOuter text := by
  obtain ⟨before, after, houter, htext⟩ := exists_stripWhile isOuter text
  have hnot : c ∉ before ++ after := by
    intro hmem
    rw [houter c hmem] at hc
    cases hc
  rw [htext] at hmem
  grind

/-- Trimming leaves characters of the text in their order. -/
theorem stripWhile_sublist (isOuter : Char → Bool) (text : List Char) :
    (stripWhile isOuter text).Sublist text :=
  (List.rdropWhile_prefix isOuter _).sublist.trans (List.dropWhile_suffix isOuter).sublist

/-- What is dropped at the end leaves the first character, unless it leaves nothing. -/
theorem mem_head?_of_dropWhileEnd {c : Char} (hc : c ∈ (dropWhileEnd isOuter text).head?) :
    c ∈ text.head? := by
  obtain ⟨dropped, hdropped⟩ := List.rdropWhile_prefix isOuter text
  rw [dropWhileEnd_eq_rdropWhile] at hc
  rw [← hdropped, List.head?_append, Option.mem_def.mp hc]
  rfl

/-- Trimming twice is trimming once. -/
theorem stripWhile_stripWhile (isOuter : Char → Bool) (text : List Char) :
    stripWhile isOuter (stripWhile isOuter text) = stripWhile isOuter text := by
  have hfirst : ∀ c ∈ (stripWhile isOuter text).head?, isOuter c = false :=
    fun c hc => head?_dropWhile isOuter text c (mem_head?_of_dropWhileEnd hc)
  rw [stripWhile, dropWhile_eq_self hfirst]
  exact List.rdropWhile_idempotent isOuter _

/-- What is taken off a text may as well stand in front of it. -/
theorem stripWhile_append {outer : List Char} (houter : ∀ c ∈ outer, isOuter c = true)
    (text : List Char) : stripWhile isOuter (outer ++ text) = stripWhile isOuter text := by
  rw [stripWhile, List.dropWhile_append_of_pos houter, stripWhile]

theorem dropWhileEnd_append_outer {outer : List Char} (houter : ∀ c ∈ outer, isOuter c = true)
    (text : List Char) : dropWhileEnd isOuter (text ++ outer) = dropWhileEnd isOuter text := by
  rw [dropWhileEnd, List.reverse_append, List.dropWhile_append_of_pos, dropWhileEnd]
  intro c hc
  exact houter c (List.mem_reverse.mp hc)

/-- Neither does it matter if it stands behind. -/
theorem stripWhile_append_outer {outer : List Char} (houter : ∀ c ∈ outer, isOuter c = true)
    (text : List Char) : stripWhile isOuter (text ++ outer) = stripWhile isOuter text := by
  rw [stripWhile, List.dropWhile_append]
  split
  next hnone =>
    have hall : outer.dropWhile isOuter = [] := by
      simpa using @List.dropWhile_append_of_pos _ isOuter outer [] houter
    rw [stripWhile, hall, List.isEmpty_iff.mp hnone]
  next => rw [dropWhileEnd_append_outer houter, stripWhile]

/-- A text ends as its second part does. -/
theorem getLast?_append_of_eq_some (front : List Char) {back : List Char} {last : Char}
    (hlast : back.getLast? = some last) : (front ++ back).getLast? = some last := by
  rw [List.getLast?_append, hlast]
  rfl

section Runs

variable {isInner : Char → Bool} {run rest : List Char} {c : Char}

/-- A text without a character is a run of others. -/
theorem forall_bne_of_not_mem {text : List Char} (hfree : c ∉ text) : ∀ d ∈ text, (d != c) = true := by
  intro d hd
  refine bne_iff_ne.mpr ?_
  rintro rfl
  exact hfree hd

/-- And so is what is taken up to the first one of that character. -/
theorem not_mem_takeWhile_bne (c : Char) (text : List Char) : c ∉ text.takeWhile (· != c) := by
  intro hmem
  simpa using List.all_eq_true.mp List.all_takeWhile c hmem

/-- A run is taken if nothing behind it belongs to it. -/
theorem takeWhile_run_append (hrun : ∀ d ∈ run, isInner d = true)
    (hrest : ∀ d ∈ rest.head?, isInner d = false) : (run ++ rest).takeWhile isInner = run := by
  rw [List.takeWhile_append_of_pos hrun]
  cases rest with
  | nil => simp
  | cons d rest => simp [hrest d rfl]

/-- What stands behind a run is left. -/
theorem dropWhile_run_append (hrun : ∀ d ∈ run, isInner d = true)
    (hrest : ∀ d ∈ rest.head?, isInner d = false) : (run ++ rest).dropWhile isInner = rest := by
  rw [List.dropWhile_append_of_pos hrun, dropWhile_eq_self hrest]

/-- A run is taken up to the first character that does not belong to it. -/
theorem takeWhile_run (hrun : ∀ d ∈ run, isInner d = true) (hend : isInner c = false)
    (rest : List Char) : (run ++ c :: rest).takeWhile isInner = run :=
  takeWhile_run_append hrun (by rintro d ⟨⟩; exact hend)

/-- What stands behind a run begins with the first character that does not belong to it. -/
theorem dropWhile_run (hrun : ∀ d ∈ run, isInner d = true) (hend : isInner c = false)
    (rest : List Char) : (run ++ c :: rest).dropWhile isInner = c :: rest :=
  dropWhile_run_append hrun (by rintro d ⟨⟩; exact hend)

/-- A character of another kind is not dropped with a run. -/
theorem mem_dropWhile {text : List Char} (hmem : c ∈ text) (hend : isInner c = false) :
    c ∈ text.dropWhile isInner := by
  have hparts : c ∈ text.takeWhile isInner ++ text.dropWhile isInner := by
    rw [List.takeWhile_append_dropWhile]
    exact hmem
  rcases List.mem_append.mp hparts with htaken | hdropped
  · have hinner := List.all_eq_true.mp List.all_takeWhile c htaken
    rw [hend] at hinner
    cases hinner
  · exact hdropped

end Runs

/-- What stands in pieces that are put together is a separator's or a piece's. -/
theorem mem_intercalate {c : Char} {separator : List Char} {pieces : List (List Char)}
    (h : c ∈ separator.intercalate pieces) : c ∈ separator ∨ ∃ piece ∈ pieces, c ∈ piece := by
  induction pieces with
  | nil => cases h
  | cons first rest ih =>
      cases rest with
      | nil => exact .inr ⟨first, List.mem_cons_self, by simpa using h⟩
      | cons next others =>
          rw [List.intercalate_cons_cons, List.mem_append, List.mem_append] at h
          obtain (hfirst | hseparator) | hrest := h
          · exact .inr ⟨first, List.mem_cons_self, hfirst⟩
          · exact .inl hseparator
          · refine (ih hrest).imp_right ?_
            rintro ⟨piece, hpiece, hc⟩
            exact ⟨piece, List.mem_cons_of_mem _ hpiece, hc⟩

/-- Texts are run through from one separator to the next. -/
theorem cut_induction {separator : Char} {holds : List Char → Prop}
    (last : ∀ piece, separator ∉ piece → holds piece)
    (cut : ∀ piece later, separator ∉ piece → holds later → holds (piece ++ separator :: later))
    (text : List Char) : holds text := by
  induction hlength : text.length using Nat.strongRecOn generalizing text with
  | ind length ih =>
      by_cases hmem : separator ∈ text
      · obtain ⟨piece, later, rfl, hfree⟩ := List.eq_append_cons_of_mem hmem
        refine cut piece later hfree (ih later.length ?_ later rfl)
        simp only [List.length_append, List.length_cons] at hlength
        omega
      · exact last text hmem

end MockSql.Text
