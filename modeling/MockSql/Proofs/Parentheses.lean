/-
# Parentheses of a body

The depth of a text is the number of parentheses that it opens and does not close. A body is balanced if
no front of it closes more than it opens, and the whole closes what it opens. In a balanced body the next
parenthesis behind a comma closes exactly if the comma stands inside parentheses and no further one is
opened before that; so a comma outside of all parentheses always counts, and one inside counts where a
further parenthesis is opened next.
-/

import Mathlib.Data.List.Infix
import MockSql.Proofs.Bodies

namespace MockSql.ColumnDefinition

open MockSql.Text

variable {text front rest body : List Char}

/-- How many more parentheses a text opens than it closes. -/
def depth (text : List Char) : Int :=
  text.count '(' - text.count ')'

@[simp]
theorem depth_nil : depth [] = 0 :=
  rfl

@[simp]
theorem depth_append (front rest : List Char) : depth (front ++ rest) = depth front + depth rest := by
  simp only [depth, List.count_append]
  omega

@[simp]
theorem depth_opening (rest : List Char) : depth ('(' :: rest) = depth rest + 1 := by
  have hother : List.count ')' ('(' :: rest) = List.count ')' rest := List.count_cons_of_ne (by decide)
  rw [depth, depth, List.count_cons_self, hother]
  omega

@[simp]
theorem depth_closing (rest : List Char) : depth (')' :: rest) = depth rest - 1 := by
  have hother : List.count '(' (')' :: rest) = List.count '(' rest := List.count_cons_of_ne (by decide)
  rw [depth, depth, List.count_cons_self, hother]
  omega

@[simp]
theorem depth_comma (rest : List Char) : depth (',' :: rest) = depth rest := by
  simp [depth]

/-- Other characters do not count. -/
theorem depth_eq_zero (hfree : ∀ c ∈ text, c ≠ '(' ∧ c ≠ ')') : depth text = 0 := by
  have hopening : '(' ∉ text := fun hmem => (hfree _ hmem).1 rfl
  have hclosing : ')' ∉ text := fun hmem => (hfree _ hmem).2 rfl
  rw [depth, List.count_eq_zero_of_not_mem hopening, List.count_eq_zero_of_not_mem hclosing]
  rfl

/-- A text that closes more than it opens has a closing parenthesis. -/
theorem mem_of_depth_neg (hneg : depth text < 0) : ')' ∈ text := by
  apply List.count_pos_iff.mp
  rw [depth] at hneg
  omega

/-- A body whose parentheses are balanced: no front of it closes what is not open, and at its end nothing
is open. -/
structure IsBalanced (body : List Char) : Prop where
  opened : ∀ front, front <+: body → 0 ≤ depth front
  settled : depth body = 0

instance (body : List Char) : Decidable (IsBalanced body) :=
  decidable_of_iff ((∀ front ∈ body.inits, 0 ≤ depth front) ∧ depth body = 0)
    ⟨fun h => ⟨fun front hfront => h.1 front ((List.mem_inits front body).mpr hfront), h.2⟩,
      fun h => ⟨fun front hfront => h.opened front ((List.mem_inits front body).mp hfront), h.settled⟩⟩

/-- Balanced bodies with a comma between them are balanced. -/
theorem IsBalanced.append_comma (balanced : IsBalanced text) (balanced' : IsBalanced rest) :
    IsBalanced (text ++ ',' :: rest) where
  opened := by
    intro front hfront
    rcases List.prefix_or_prefix_of_prefix hfront (List.prefix_append text _) with hfirst | ⟨later, rfl⟩
    · exact balanced.opened front hfirst
    · rw [depth_append, balanced.settled]
      cases later with
      | nil => simp
      | cons c later =>
          obtain ⟨rfl, hlater⟩ :=
            List.cons_prefix_cons.mp ((List.prefix_append_right_inj text).mp hfront)
          simpa using balanced'.opened later hlater
  settled := by rw [depth_append, depth_comma, balanced.settled, balanced'.settled]; rfl

/-- What is opened in a balanced body is closed behind. -/
theorem IsBalanced.mem_closing (balanced : IsBalanced body) (hopening : '(' :: rest <:+ body) :
    ')' ∈ rest := by
  obtain ⟨front, rfl⟩ := hopening
  have hopened := balanced.opened front (List.prefix_append front _)
  have hsettled := balanced.settled
  rw [depth_append, depth_opening] at hsettled
  exact mem_of_depth_neg (by omega)

/-- Whether the next parenthesis of a text opens. -/
def opensNext (text : List Char) : Bool :=
  match text.find? fun c => c == '(' || c == ')' with
  | some c => c == '('
  | none => false

/-- The next parenthesis of a text opens, or it closes, or there is none. -/
theorem next_cases (text : List Char) :
    (∃ before behind, text = before ++ '(' :: behind ∧ depth before = 0 ∧
      opensNext text = true ∧ closesNext text = false) ∨
    (∃ before behind, text = before ++ ')' :: behind ∧ depth before = 0 ∧
      opensNext text = false ∧ closesNext text = true) ∨
    (depth text = 0 ∧ opensNext text = false ∧ closesNext text = false) := by
  cases hfind : text.find? fun c => c == '(' || c == ')' with
  | none =>
      rw [List.find?_eq_none] at hfind
      refine .inr (.inr ⟨depth_eq_zero fun c hc => by simpa using hfind c hc, ?_, ?_⟩)
      · rw [opensNext, List.find?_eq_none.mpr hfind]
      · rw [closesNext, List.find?_eq_none.mpr hfind]
  | some c =>
      obtain ⟨hparen, before, behind, rfl, hbefore⟩ := List.find?_eq_some_iff_append.mp hfind
      have hzero : depth before = 0 := depth_eq_zero fun d hd => by simpa using hbefore d hd
      simp only [Bool.or_eq_true, beq_iff_eq] at hparen
      rcases hparen with rfl | rfl
      · exact .inl ⟨before, behind, rfl, hzero, by rw [opensNext, hfind]; rfl,
          by rw [closesNext, hfind]; rfl⟩
      · exact .inr (.inl ⟨before, behind, rfl, hzero, by rw [opensNext, hfind]; rfl,
          by rw [closesNext, hfind]; rfl⟩)

/-- The first parenthesis of a balanced body does not close. -/
theorem IsBalanced.closesNext_eq_false (balanced : IsBalanced body) : closesNext body = false := by
  rcases next_cases body with ⟨-, -, -, -, -, hcloses⟩ | ⟨before, behind, rfl, hzero, -⟩ |
    ⟨-, -, hcloses⟩
  · exact hcloses
  · have hopened := balanced.opened (before ++ [')']) ⟨behind, by simp⟩
    rw [depth_append, hzero, depth_closing, depth_nil] at hopened
    omega
  · exact hcloses

/-- In a balanced body the next parenthesis behind a comma closes exactly if the comma stands inside
parentheses and the next one does not open. -/
theorem IsBalanced.closesNext_iff (balanced : IsBalanced (front ++ ',' :: rest)) :
    closesNext rest = true ↔ depth front ≠ 0 ∧ opensNext rest = false := by
  have hsettled := balanced.settled
  rw [depth_append, depth_comma] at hsettled
  rcases next_cases rest with ⟨before, behind, rfl, -, hopens, hcloses⟩ |
    ⟨before, behind, rfl, hzero, hopens, hcloses⟩ | ⟨hzero, hopens, hcloses⟩
  · simp [hopens, hcloses]
  · have hprefix : front ++ ',' :: (before ++ [')']) <+: front ++ ',' :: (before ++ ')' :: behind) :=
      ⟨behind, by simp⟩
    have hopened := balanced.opened _ hprefix
    simp only [depth_append, depth_comma, depth_closing, depth_nil, hzero] at hopened
    have hinside : depth front ≠ 0 := by omega
    simp [hopens, hcloses, hinside]
  · have houtside : depth front = 0 := by omega
    simp [hcloses, houtside]

/-- A text with balanced parentheses, none inside others, and with no comma outside of them. -/
structure IsFlat (text : List Char) : Prop extends IsBalanced text where
  unnested : ∀ front, front ++ ['('] <+: text → depth front = 0
  inside : ∀ front, front ++ [','] <+: text → depth front ≠ 0

instance (text : List Char) : Decidable (IsFlat text) :=
  decidable_of_iff (IsBalanced text ∧
      (∀ front ∈ text.inits, front ++ ['('] <+: text → depth front = 0) ∧
      ∀ front ∈ text.inits, front ++ [','] <+: text → depth front ≠ 0)
    ⟨fun h => ⟨h.1,
        fun front hfront => h.2.1 front
          ((List.mem_inits front text).mpr ((List.prefix_append front _).trans hfront)) hfront,
        fun front hfront => h.2.2 front
          ((List.mem_inits front text).mpr ((List.prefix_append front _).trans hfront)) hfront⟩,
      fun h => ⟨h.toIsBalanced, fun front _ => h.unnested front, fun front _ => h.inside front⟩⟩

/-- A comma in a flat text stands before a parenthesis that closes. -/
theorem IsFlat.closes_behind_comma (flat : IsFlat (front ++ ',' :: rest)) :
    closesNext rest = true := by
  have hinside : depth front ≠ 0 := flat.inside front ⟨rest, by simp⟩
  refine flat.toIsBalanced.closesNext_iff.mpr ⟨hinside, ?_⟩
  rcases next_cases rest with ⟨before, behind, rfl, hzero, -⟩ | ⟨before, behind, -, -, hopens, -⟩ |
    ⟨-, hopens, -⟩
  · have hunnested := flat.unnested (front ++ ',' :: before) ⟨behind, by simp⟩
    rw [depth_append, depth_comma, hzero] at hunnested
    omega
  · exact hopens
  · exact hopens

/-- What stands behind a text does not change whether its next parenthesis closes. -/
theorem closesNext_append_of_closes (hcloses : closesNext text = true)
    (rest : List Char) : closesNext (text ++ rest) = true := by
  rw [closesNext] at hcloses ⊢
  rw [List.find?_append]
  cases hfind : text.find? fun c => c == '(' || c == ')' with
  | none => simp [hfind] at hcloses
  | some c => simpa [hfind] using hcloses

/-- A flat text is not cut. -/
theorem cutBody_flat (flat : IsFlat text) (rest : List Char) :
    cutBody (text ++ rest) = prepend text (cutBody rest) := by
  refine cutBody_append fun c later hlater => ?_
  by_cases hc : c = ','
  · subst hc
    obtain ⟨front, rfl⟩ := hlater
    exact .inr (closesNext_append_of_closes flat.closes_behind_comma rest)
  · exact .inl hc

end MockSql.ColumnDefinition
