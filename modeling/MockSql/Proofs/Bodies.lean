/-
# Cutting a body

A body is cut at its commas, except where the next parenthesis closes. A text without parentheses does
not change whether a comma before it counts, and a text without commas is not cut. So the pieces of a
body can be joined again, and a plain text in one of them can be replaced by another.
-/

import MockSql.Proofs.ColumnClauses
import MockSql.Proofs.Spelling

namespace MockSql.ColumnDefinition

open MockSql.Text

variable {text rest piece : List Char} {pieces : List (List Char)}

/-- Whether a character is neither a comma nor a parenthesis. -/
def isUncut (c : Char) : Bool :=
  c != ',' && c != '(' && c != ')'

/-- Characters other than parentheses do not change whether the next parenthesis closes. -/
theorem closesNext_append (hfree : ∀ c ∈ text, c ≠ '(' ∧ c ≠ ')') (rest : List Char) :
    closesNext (text ++ rest) = closesNext rest := by
  have hnone : text.find? (fun c => c == '(' || c == ')') = none := by
    rw [List.find?_eq_none]
    intro c hc
    simp [hfree c hc]
  rw [closesNext, closesNext, List.find?_append, hnone, Option.none_or]

theorem closesNext_opening (rest : List Char) : closesNext ('(' :: rest) = false :=
  rfl

theorem closesNext_closing (rest : List Char) : closesNext (')' :: rest) = true :=
  rfl

theorem isUncut_iff {c : Char} : isUncut c = true ↔ c ≠ ',' ∧ c ≠ '(' ∧ c ≠ ')' := by
  simp [isUncut, and_assoc]

theorem isUncut_of_isWord {c : Char} (hword : isWord c = true) : isUncut c = true :=
  isUncut_iff.mpr ⟨ne_of_isWord hword (by decide), ne_of_isWord hword (by decide),
    ne_of_isWord hword (by decide)⟩

theorem isUncut_of_isBlank {c : Char} (hblank : isBlank c = true) : isUncut c = true := by
  refine isUncut_iff.mpr ⟨?_, ?_, ?_⟩
  all_goals
    rintro rfl
    exact absurd hblank (by decide)

theorem closesNext_uncut (huncut : ∀ c ∈ text, isUncut c = true) (rest : List Char) :
    closesNext (text ++ rest) = closesNext rest :=
  closesNext_append (fun c hc => (isUncut_iff.mp (huncut c hc)).2) rest

/-- Behind the same front, two rests whose next parenthesis is of the same kind stay so. -/
theorem closesNext_append_congr {other : List Char} (hsame : closesNext other = closesNext rest)
    (front : List Char) : closesNext (front ++ other) = closesNext (front ++ rest) := by
  simp only [closesNext, List.find?_append] at hsame ⊢
  cases front.find? fun c => c == '(' || c == ')' with
  | none => simpa using hsame
  | some c => rfl

/-- Pieces with a text before the first. -/
def prepend (text : List Char) : List (List Char) → List (List Char)
  | [] => [text]
  | piece :: pieces => (text ++ piece) :: pieces

@[simp]
theorem prepend_cons : prepend text (piece :: pieces) = (text ++ piece) :: pieces :=
  rfl

theorem prepend_append (front text : List Char) (pieces : List (List Char)) :
    prepend (front ++ text) pieces = prepend front (prepend text pieces) := by
  cases pieces <;> simp [prepend]

theorem prepend_eq_cons {front : List Char} {later : List (List Char)} (hne : later ≠ [])
    (h : prepend front later = piece :: pieces) :
    ∃ first, piece = front ++ first ∧ later = first :: pieces := by
  obtain ⟨first, rest, rfl⟩ := List.exists_cons_of_ne_nil hne
  cases h
  exact ⟨first, rfl, rfl⟩

theorem intercalate_prepend (hpieces : pieces ≠ []) :
    [','].intercalate (prepend text pieces) = text ++ [','].intercalate pieces := by
  obtain ⟨piece, later, rfl⟩ := List.exists_cons_of_ne_nil hpieces
  cases later with
  | nil => simp
  | cons next later => simp

theorem cutBody_ne_nil (text : List Char) : cutBody text ≠ [] := by
  cases text with
  | nil => exact List.cons_ne_nil _ _
  | cons c rest =>
      unfold cutBody
      split
      next => exact List.cons_ne_nil _ _
      next => split <;> exact List.cons_ne_nil _ _

/-- A comma that counts ends a piece. -/
theorem cutBody_comma (hcounts : closesNext rest = false) :
    cutBody (',' :: rest) = [] :: cutBody rest := by
  rw [cutBody]
  simp [hcounts]

/-- Any other character belongs to the first piece. -/
theorem cutBody_cons {c : Char} (huncut : c ≠ ',' ∨ closesNext rest = true) :
    cutBody (c :: rest) = prepend [c] (cutBody rest) := by
  have hnot : (c == ',' && !closesNext rest) = false := by
    rcases huncut with hc | hcloses
    · simp [hc]
    · simp [hcloses]
  rw [cutBody, hnot]
  cases cutBody rest <;> rfl

/-- A text without a comma that counts belongs to the first piece. -/
theorem cutBody_append (huncut : ∀ c later, c :: later <:+ text → c ≠ ',' ∨
    closesNext (later ++ rest) = true) : cutBody (text ++ rest) = prepend text (cutBody rest) := by
  induction text with
  | nil =>
      obtain ⟨piece, pieces, hcut⟩ := List.exists_cons_of_ne_nil (cutBody_ne_nil rest)
      simp [hcut]
  | cons c text ih =>
      have hlater := ih fun d later hd => huncut d later (hd.trans (List.suffix_cons c text))
      have happend : c :: text = [c] ++ text := rfl
      rw [List.cons_append, cutBody_cons (huncut c text List.suffix_rfl), hlater, happend,
        prepend_append]

theorem cutBody_uncut (huncut : ∀ c ∈ text, isUncut c = true) (rest : List Char) :
    cutBody (text ++ rest) = prepend text (cutBody rest) := by
  refine cutBody_append fun c later hlater => .inl ?_
  exact (isUncut_iff.mp (huncut c (hlater.subset List.mem_cons_self))).1

/-- Commas inside a bracket do not count. -/
theorem cutBody_bracket (hfree : ∀ c ∈ text, c ≠ '(' ∧ c ≠ ')') (rest : List Char) :
    cutBody (text ++ ')' :: rest) = prepend text (cutBody (')' :: rest)) := by
  refine cutBody_append fun c later hlater => .inr ?_
  have hlaterFree : ∀ d ∈ later, d ≠ '(' ∧ d ≠ ')' :=
    fun d hd => hfree d (hlater.subset (List.mem_cons_of_mem _ hd))
  rw [closesNext_append hlaterFree, closesNext_closing]

/-- Where a body is cut is known from its front and from the kind of the first parenthesis behind. So if
what stands behind is replaced, the pieces that end in the front stay as they are, and the one that goes
on behind it does so with the first piece of what stands there. -/
theorem cutBody_front {front before : List Char} {earlier : List (List Char)}
    (hfront : [','].intercalate (earlier ++ [before]) = front)
    (hcut : cutBody (front ++ rest) = earlier ++ (before ++ piece) :: pieces) :
    cutBody rest = piece :: pieces ∧ ∀ {other next : List Char} {others : List (List Char)},
      closesNext other = closesNext rest → cutBody other = next :: others →
        cutBody (front ++ other) = earlier ++ (before ++ next) :: others := by
  induction front generalizing earlier before with
  | nil =>
      cases earlier with
      | nil =>
          obtain rfl : before = [] := by simpa using hfront
          exact ⟨hcut, fun _ hother => hother⟩
      | cons first earlier =>
          rw [List.cons_append, List.intercalate_cons_of_ne_nil (by simp)] at hfront
          simp at hfront
  | cons c front ih =>
      by_cases hcounts : c = ',' ∧ closesNext (front ++ rest) = false
      · obtain ⟨rfl, hcounts⟩ := hcounts
        rw [List.cons_append, cutBody_comma hcounts] at hcut
        cases earlier with
        | nil =>
            obtain rfl : before = ',' :: front := by simpa using hfront
            cases hcut
        | cons first earlier =>
            obtain ⟨rfl, hlater⟩ := List.cons_eq_cons.mp hcut
            rw [List.cons_append, List.intercalate_cons_of_ne_nil (by simp)] at hfront
            obtain ⟨hrest, hreplace⟩ := ih (by simpa using hfront) hlater
            refine ⟨hrest, fun hsame hother => ?_⟩
            rw [List.cons_append, cutBody_comma ((closesNext_append_congr hsame front).trans hcounts),
              hreplace hsame hother, List.cons_append]
      · have huncut : c ≠ ',' ∨ closesNext (front ++ rest) = true := by grind
        rw [List.cons_append, cutBody_cons huncut] at hcut
        have hcons : ∀ {other : List Char}, closesNext other = closesNext rest →
            cutBody (c :: front ++ other) = prepend [c] (cutBody (front ++ other)) := by
          intro other hsame
          refine cutBody_cons (huncut.imp_right fun hcloses => ?_)
          exact (closesNext_append_congr hsame front).trans hcloses
        cases earlier with
        | nil =>
            obtain rfl : before = c :: front := by simpa using hfront
            obtain ⟨first, hfirst, hlater⟩ := prepend_eq_cons (cutBody_ne_nil _) hcut
            obtain rfl : front ++ piece = first := by simpa using hfirst
            obtain ⟨hrest, hreplace⟩ := @ih front [] (by simp) hlater
            refine ⟨hrest, fun hsame hother => ?_⟩
            rw [hcons hsame, hreplace hsame hother]
            rfl
        | cons first earlier =>
            obtain ⟨shorter, rfl, hlater⟩ := prepend_eq_cons (cutBody_ne_nil _) hcut
            rw [List.cons_append, List.intercalate_cons_of_ne_nil (by simp)] at hfront
            obtain ⟨hrest, hreplace⟩ := @ih before (shorter :: earlier)
              (by
                rw [List.cons_append, List.intercalate_cons_of_ne_nil (by simp)]
                simpa using hfront) hlater
            refine ⟨hrest, fun hsame hother => ?_⟩
            rw [hcons hsame, hreplace hsame hother]
            rfl

/-- A body is its pieces with commas between them. -/
theorem intercalate_cutBody (body : List Char) : [','].intercalate (cutBody body) = body := by
  induction body with
  | nil => rfl
  | cons c rest ih =>
      by_cases hcounts : c = ',' ∧ closesNext rest = false
      · obtain ⟨rfl, hcounts⟩ := hcounts
        rw [cutBody_comma hcounts, List.intercalate_cons_of_ne_nil (cutBody_ne_nil rest), ih]
        rfl
      · have huncut : c ≠ ',' ∨ closesNext rest = true := by grind
        rw [cutBody_cons huncut, intercalate_prepend (cutBody_ne_nil rest), ih,
          List.singleton_append]

end MockSql.ColumnDefinition
