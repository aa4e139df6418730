/-
# What recognisers take and leave

A recogniser of a run takes it as far as it goes, one of a bracket takes what stands up to the first
closing parenthesis, and one of a name with a mark behind it takes the name whatever follows.
-/

import MockSql.Proofs.Keywords
import MockSql.Proofs.Predicates

namespace MockSql

open MockSql.Text

/-- White space that may be left out. -/
def AreBlanks (text : List Char) : Prop :=
  ∀ c ∈ text, isBlank c = true

instance (text : List Char) : Decidable (AreBlanks text) :=
  inferInstanceAs (Decidable (∀ c ∈ text, isBlank c = true))

namespace Text

variable {text rest : List Char} {name : String}

/-- Skipped white space is white space. -/
theorem exists_trimStart (text : List Char) :
    ∃ blanks, AreBlanks blanks ∧ text = blanks ++ trimStart text :=
  ⟨text.takeWhile isBlank, fun _ hc => List.all_eq_true.mp List.all_takeWhile _ hc,
    List.takeWhile_append_dropWhile.symm⟩

theorem trimStart_append {blanks : List Char} (areBlanks : AreBlanks blanks)
    (hrest : ∀ c ∈ rest.head?, isBlank c = false) : trimStart (blanks ++ rest) = rest :=
  dropWhile_run_append areBlanks hrest

/-- A name with a mark behind it is taken, whatever follows. -/
theorem takeName?_append_marked {written : List Char} (writes : WritesName name written)
    (marked : written.getLast? = some nameMark) (rest : List Char) :
    takeName? (written ++ rest) = some (name, rest) := by
  obtain ⟨isName, opening, hopening, closing, hclosing, rfl⟩ := writes
  obtain ⟨first, later, hname, hfirst⟩ := isName.exists_cons
  have hmark : isWord nameMark = false := by decide
  have hclosed : closing = [nameMark] := by
    simp only [List.mem_cons, List.not_mem_nil, or_false] at hclosing
    refine hclosing.resolve_left ?_
    rintro rfl
    have hlast : name.toList.getLast? = some nameMark := by
      rw [List.append_nil, List.getLast?_append] at marked
      simpa [List.getLast?_eq_some_getLast isName.1] using marked
    exact ne_of_isWord (isName.isWord_of_mem (List.mem_of_getLast? hlast)) hmark rfl
  have hopened : skipChar nameMark (opening ++ (name.toList ++ ([nameMark] ++ rest))) =
      name.toList ++ ([nameMark] ++ rest) := by
    apply skipChar_append hopening
    rw [hname]
    rintro c ⟨⟩
    exact ne_of_isWord hfirst hmark
  have hrun : Text.takeRun? isWord (name.toList ++ ([nameMark] ++ rest)) =
      some (name.toList, [nameMark] ++ rest) :=
    isName.takeRun? (by rintro c ⟨⟩; exact hmark)
  have hskipped : skipChar nameMark ([nameMark] ++ rest) = rest := by simp [skipChar]
  simp only [hclosed, List.append_assoc, takeName?, hopened, hrun, Option.map_some, hskipped,
    String.ofList_toList]

/-- A run is taken exactly as far as it goes. -/
theorem takeRun?_eq_some_iff {inRun : Char → Bool} {run : List Char} :
    takeRun? inRun text = some (run, rest) ↔
      text = run ++ rest ∧ run ≠ [] ∧ (∀ c ∈ run, inRun c = true) ∧
        ∀ c ∈ rest.head?, inRun c = false := by
  constructor
  · intro h
    rw [takeRun?] at h
    split at h
    next => cases h
    next hne =>
      cases h
      refine ⟨List.takeWhile_append_dropWhile.symm, by simpa using hne, ?_, head?_dropWhile inRun text⟩
      exact fun c hc => List.all_eq_true.mp List.all_takeWhile c hc
  · rintro ⟨rfl, hne, hrun, hrest⟩
    exact takeRun?_append hrun hne hrest

theorem takeName?_suffix {name : String} (h : takeName? text = some (name, rest)) : rest <:+ text := by
  obtain ⟨⟨run, after⟩, hrun, heq⟩ := Option.map_eq_some_iff.mp h
  cases heq
  obtain ⟨hsplit, -⟩ := takeRun?_eq_some_iff.mp hrun
  have hafter : after <:+ skipChar nameMark text := hsplit ▸ List.suffix_append run after
  exact (skipChar_suffix nameMark after).trans (hafter.trans (skipChar_suffix nameMark text))

/-- A bracket ends at the first closing parenthesis. -/
theorem takeBracketed?_eq_some_iff {inside : List Char} :
    takeBracketed? text = some (inside, rest) ↔
      text = '(' :: (inside ++ ')' :: rest) ∧ ')' ∉ inside := by
  constructor
  · intro h
    simp only [takeBracketed?, Option.bind_eq_bind, Option.bind_eq_some_iff] at h
    obtain ⟨opened, hopened, after, hafter, heq⟩ := h
    cases heq
    refine ⟨?_, not_mem_takeWhile_bne _ _⟩
    rw [afterChar?_eq_some hopened, ← afterChar?_eq_some hafter, List.takeWhile_append_dropWhile]
  · rintro ⟨rfl, hinside⟩
    have hrun := forall_bne_of_not_mem hinside
    simp only [takeBracketed?, afterChar?, beq_self_eq_true, if_true, Option.bind_eq_bind,
      Option.bind_some, takeWhile_run hrun (bne_self_eq_false ')'),
      dropWhile_run hrun (bne_self_eq_false ')')]

/-- What stands before the first closing parenthesis, and what follows it. -/
def untilClosing? (text : List Char) : Option (List Char × List Char) :=
  (afterChar? ')' (text.dropWhile (· != ')'))).map (text.takeWhile (· != ')'), ·)

theorem takeBracketed?_eq (text : List Char) :
    takeBracketed? text = (afterChar? '(' text).bind untilClosing? := by
  rw [takeBracketed?, Option.bind_eq_bind]
  congr 1
  funext inside
  rw [untilClosing?, Option.map_eq_bind]
  rfl

theorem untilClosing?_cons (c : Char) (text : List Char) : untilClosing? (c :: text) =
    if c = ')' then some ([], text) else (untilClosing? text).map (Prod.map (c :: ·) id) := by
  by_cases hc : c = ')'
  · simp [untilClosing?, hc, afterChar?]
  · simp only [untilClosing?, List.dropWhile_cons, List.takeWhile_cons, bne_iff_ne.mpr hc, if_true,
      if_neg hc, Option.map_map]
    rfl

theorem untilClosing?_append (front rest : List Char) : untilClosing? (front ++ rest) =
    ((untilClosing? front).map (Prod.map id (· ++ rest))).or
      ((untilClosing? rest).map (Prod.map (front ++ ·) id)) := by
  induction front with
  | nil =>
      have hnone : untilClosing? [] = none := rfl
      have hid : Prod.map (([] : List Char) ++ ·) id = @id (List Char × List Char) := rfl
      rw [List.nil_append, hnone, Option.map_none, Option.none_or, hid, Option.map_id, id_eq]
  | cons c front ih =>
      rw [List.cons_append, untilClosing?_cons, untilClosing?_cons, ih]
      split
      next => rfl
      next =>
        rw [Option.map_or, Option.map_map, Option.map_map, Option.map_map]
        rfl

theorem untilClosing?_eq_none (hfree : ')' ∉ text) : untilClosing? text = none := by
  rw [untilClosing?, Option.map_eq_none_iff]
  have hdropped : text.dropWhile (· != ')') = [] := by
    rw [← List.append_nil text, List.dropWhile_append_of_pos (forall_bne_of_not_mem hfree),
      List.dropWhile_nil]
  rw [hdropped]
  rfl

theorem untilClosing?_suffix {found : List Char × List Char} (h : untilClosing? text = some found) :
    found.2 <:+ text := by
  obtain ⟨after, hafter, rfl⟩ := Option.map_eq_some_iff.mp h
  have hdropped : text.dropWhile (· != ')') <:+ text := List.dropWhile_suffix _
  rw [afterChar?_eq_some hafter] at hdropped
  exact (List.suffix_cons _ _).trans hdropped

end Text

end MockSql
