/-
# Groups in parentheses

The scan for the end of a group stops at the parenthesis that closes it: before that one, every quote
that is opened is closed, and of the parentheses outside of quotes the first stays open throughout and
is the only one left.
-/

import MockSql.Literal.List

namespace MockSql.Literal

open MockSql.Text

namespace Nesting

variable {nesting : Nesting} {text rest : List Char} {c : Char}

/-- The nesting after a text. -/
def after (nesting : Nesting) (text : List Char) : Nesting :=
  text.foldl step nesting

@[simp]
theorem after_nil : nesting.after [] = nesting :=
  rfl

@[simp]
theorem after_cons : nesting.after (c :: text) = (nesting.step c).after text :=
  rfl

@[simp]
theorem after_append : nesting.after (text ++ rest) = (nesting.after text).after rest :=
  List.foldl_append

/-- A parenthesis stays open throughout a text. -/
def StaysOpen (nesting : Nesting) (text : List Char) : Prop :=
  ∀ front, front <+: text → 1 ≤ (nesting.after front).depth

theorem staysOpen_nil_iff : nesting.StaysOpen [] ↔ 1 ≤ nesting.depth := by
  simp [StaysOpen]

theorem staysOpen_cons_iff : nesting.StaysOpen (c :: text) ↔
    1 ≤ nesting.depth ∧ (nesting.step c).StaysOpen text := by
  constructor
  · intro stays
    refine ⟨stays [] List.nil_prefix, fun front hfront => ?_⟩
    exact stays (c :: front) (List.cons_prefix_cons.mpr ⟨rfl, hfront⟩)
  · rintro ⟨hopen, stays⟩ front hfront
    cases front with
    | nil => exact hopen
    | cons d front =>
        obtain ⟨rfl, hlater⟩ := List.cons_prefix_cons.mp hfront
        exact stays front hlater

end Nesting

/-- The nesting behind the parenthesis that opens a group. -/
def Nesting.opened : Nesting := ⟨none, 1⟩

/-- What can stand between the parentheses of a group. -/
structure IsGroupBody (body : List Char) : Prop where
  staysOpen : Nesting.opened.StaysOpen body
  settled : Nesting.opened.after body = .opened

variable {nesting : Nesting} {text body : List Char}

/-- Whether a character is the parenthesis that closes the last open one. -/
def Nesting.closes (nesting : Nesting) (c : Char) : Bool :=
  c == ')' && nesting.isBare && (nesting.step c).depth == 0

/-- Only behind one open parenthesis the next one closes the last. -/
theorem eq_opened_of_closes {c : Char} (hcloses : nesting.closes c = true) :
    c = ')' ∧ nesting = .opened := by
  obtain ⟨quote, depth⟩ := nesting
  simp only [Nesting.closes, Nesting.isBare, Bool.and_eq_true, beq_iff_eq, Option.isNone_iff_eq_none]
    at hcloses
  obtain ⟨⟨rfl, rfl⟩, hdepth⟩ := hcloses
  have hstep : (Nesting.step ⟨none, depth⟩ ')').depth = depth - 1 := rfl
  rw [hstep] at hdepth
  obtain rfl : depth = 1 := by omega
  exact ⟨rfl, rfl⟩

/-- No other character closes the last open one. -/
theorem one_le_step {c : Char} (hopen : 1 ≤ nesting.depth)
    (hcloses : nesting.closes c = false) : 1 ≤ (nesting.step c).depth := by
  obtain ⟨quote, depth⟩ := nesting
  cases quote with
  | some quote =>
      have hstep : (Nesting.step ⟨some quote, depth⟩ c).depth = depth := by
        simp only [Nesting.step]
        split <;> rfl
      rwa [hstep]
  | none =>
      by_cases hclosing : c = ')'
      · subst hclosing
        have hstep : (Nesting.step ⟨none, depth⟩ ')').depth = depth - 1 := rfl
        simp only [Nesting.closes, Nesting.isBare, hstep] at hcloses hopen ⊢
        simp at hcloses
        omega
      · unfold Nesting.step
        grind

/-- A scan stops where only the one parenthesis is left that closes next. -/
theorem bodyFrom?_eq_some_iff (hopen : 1 ≤ nesting.depth) : bodyFrom? nesting text = some body ↔
    ∃ rest, text = body ++ ')' :: rest ∧ nesting.StaysOpen body ∧
      nesting.after body = .opened := by
  induction text generalizing nesting body with
  | nil => simp [bodyFrom?]
  | cons c text ih =>
      cases hcloses : nesting.closes c with
      | true =>
          obtain ⟨rfl, rfl⟩ := eq_opened_of_closes hcloses
          have hbody : bodyFrom? .opened (')' :: text) = some [] := rfl
          rw [hbody, Option.some_inj]
          constructor
          · rintro rfl
            exact ⟨text, rfl, Nesting.staysOpen_nil_iff.mpr hopen, rfl⟩
          · rintro ⟨rest, htext, stays, -⟩
            cases body with
            | nil => rfl
            | cons d body =>
                obtain ⟨rfl, -⟩ := List.cons_eq_cons.mp htext
                have hdepth := (Nesting.staysOpen_cons_iff.mp stays).2 [] List.nil_prefix
                exact absurd hdepth (by decide)
      | false =>
          have hbody : bodyFrom? nesting (c :: text) =
              (bodyFrom? (nesting.step c) text).map (c :: ·) := by
            have hnot : (c == ')' && nesting.isBare && (nesting.step c).depth == 0) = false := hcloses
            simp only [bodyFrom?, hnot, Bool.false_eq_true, if_false]
          rw [hbody, Option.map_eq_some_iff]
          constructor
          · rintro ⟨later, hlater, rfl⟩
            obtain ⟨rest, rfl, stays, settled⟩ := (ih (one_le_step hopen hcloses)).mp hlater
            exact ⟨rest, rfl, Nesting.staysOpen_cons_iff.mpr ⟨hopen, stays⟩, settled⟩
          · rintro ⟨rest, htext, stays, settled⟩
            cases body with
            | nil =>
                obtain ⟨rfl, -⟩ := List.cons_eq_cons.mp htext
                cases settled
                cases hcloses
            | cons d later =>
                obtain ⟨rfl, hlater⟩ := List.cons_eq_cons.mp htext
                have hfound := (ih (one_le_step hopen hcloses)).mpr
                  ⟨rest, hlater, (Nesting.staysOpen_cons_iff.mp stays).2, settled⟩
                exact ⟨later, hfound, rfl⟩

/-- The group that a text begins with is found exactly if there is one. -/
theorem leadingGroup?_eq_some_iff : leadingGroup? text = some body ↔
    ∃ rest, trimStart text = '(' :: (body ++ ')' :: rest) ∧ IsGroupBody body := by
  have hscan : ∀ inside, bodyFrom? ⟨none, 1⟩ inside = some body ↔
      ∃ rest, inside = body ++ ')' :: rest ∧ IsGroupBody body := by
    intro inside
    rw [← Nesting.opened, bodyFrom?_eq_some_iff (by decide)]
    exact exists_congr fun rest => and_congr_right fun _ =>
      ⟨fun h => ⟨h.1, h.2⟩, fun h => ⟨h.staysOpen, h.settled⟩⟩
  rw [leadingGroup?]
  cases htrim : trimStart text with
  | nil => simp [leadingGroup?.afterOpening]
  | cons c inside =>
      by_cases hc : c = '('
      · subst hc
        simp only [leadingGroup?.afterOpening, Option.bind_some, hscan, List.cons.injEq, true_and]
      · have hnone : leadingGroup?.afterOpening (c :: inside) = none := by
          unfold leadingGroup?.afterOpening
          split
          next heq => exact absurd (List.cons_eq_cons.mp heq).1 hc
          next => rfl
        simp [hnone, hc]

/-- A group of which the scan finds the body has that body. -/
theorem IsGroupBody.of_bodyFrom? {rest : List Char}
    (h : bodyFrom? .opened (body ++ ')' :: rest) = some body) : IsGroupBody body := by
  obtain ⟨_, _, stays, settled⟩ := (bodyFrom?_eq_some_iff (by decide)).mp h
  exact ⟨stays, settled⟩

end MockSql.Literal
