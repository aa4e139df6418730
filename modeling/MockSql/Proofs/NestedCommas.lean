/-
# Commas in a balanced body

A body is meant to be cut at the commas outside of its parentheses. If its parentheses are balanced, then
it is cut at all of these, and besides at those inside parentheses behind which a further one opens
next. So its columns are those of the pieces between the outer commas if there is no such comma inside,
and a body with one can define a column that nobody wrote.
-/

import MockSql.Proofs.Parentheses
import MockSql.Proofs.TableClauses

namespace MockSql

open MockSql.Text

namespace ColumnDefinition

variable {body front rest : List Char} {counts other : List Char → List Char → Bool}

/-- The pieces of a text between those of its commas that count by what stands before and behind them.
The text may itself stand behind a front. -/
def cutAt (counts : List Char → List Char → Bool) (front : List Char) : List Char → List (List Char)
  | [] => [[]]
  | c :: rest =>
    if c == ',' && counts front rest then [] :: cutAt counts (front ++ [c]) rest
    else prepend [c] (cutAt counts (front ++ [c]) rest)

theorem cutAt_ne_nil (counts : List Char → List Char → Bool) (front text : List Char) :
    cutAt counts front text ≠ [] := by
  cases text with
  | nil => exact List.cons_ne_nil _ _
  | cons c rest =>
      unfold cutAt
      split
      next => exact List.cons_ne_nil _ _
      next => cases cutAt counts (front ++ [c]) rest <;> exact List.cons_ne_nil _ _

/-- A body is cut at the commas behind which no parenthesis closes next. -/
theorem cutBody_eq_cutAt (front body : List Char) :
    cutBody body = cutAt (fun _ behind => !closesNext behind) front body := by
  induction body generalizing front with
  | nil => rfl
  | cons c rest ih =>
      rw [cutAt]
      split
      next hcounts =>
        simp only [Bool.and_eq_true, beq_iff_eq, Bool.not_eq_true'] at hcounts
        rw [hcounts.1, cutBody_comma hcounts.2, ih]
      next hcounts =>
        have huncut : c ≠ ',' ∨ closesNext rest = true := by
          by_cases hc : c = ','
          · exact .inr (by simpa [hc] using hcounts)
          · exact .inl hc
        rw [cutBody_cons huncut, ih]

theorem prepend_inj (text : List Char) {pieces others : List (List Char)} (hpieces : pieces ≠ [])
    (hothers : others ≠ []) : prepend text pieces = prepend text others ↔ pieces = others := by
  obtain ⟨piece, later, rfl⟩ := List.exists_cons_of_ne_nil hpieces
  obtain ⟨otherPiece, otherLater, rfl⟩ := List.exists_cons_of_ne_nil hothers
  simp

/-- The first piece of a text is empty only if the text begins with a comma that counts. -/
theorem nil_cons_ne_prepend {c : Char} {pieces others : List (List Char)} :
    [] :: pieces ≠ prepend [c] others := by
  cases others <;> simp [prepend]

/-- What holds of every comma of a text holds of its first character, if it is one, and of those
behind it. -/
theorem forall_comma_cons {holds : List Char → List Char → Prop} {c : Char} :
    (∀ before behind, c :: rest = before ++ ',' :: behind → holds before behind) ↔
      (c = ',' → holds [] rest) ∧
        ∀ before behind, rest = before ++ ',' :: behind → holds (c :: before) behind := by
  constructor
  · intro h
    refine ⟨fun hc => h [] rest (by rw [hc]; rfl), fun before behind hrest => ?_⟩
    exact h (c :: before) behind (by rw [hrest]; rfl)
  · rintro ⟨hfirst, hlater⟩ before behind htext
    cases before with
    | nil =>
        obtain ⟨rfl, rfl⟩ := List.cons_eq_cons.mp htext
        exact hfirst rfl
    | cons d before =>
        obtain ⟨rfl, hrest⟩ := List.cons_eq_cons.mp htext
        exact hlater before behind hrest

/-- Two ways of cutting give the same pieces exactly if they agree about every comma. -/
theorem cutAt_eq_iff (front text : List Char) : cutAt counts front text = cutAt other front text ↔
    ∀ before behind, text = before ++ ',' :: behind →
      counts (front ++ before) behind = other (front ++ before) behind := by
  induction text generalizing front with
  | nil => simp [cutAt]
  | cons c rest ih =>
      have hlater : cutAt counts (front ++ [c]) rest = cutAt other (front ++ [c]) rest ↔
          ∀ before behind, rest = before ++ ',' :: behind →
            counts (front ++ c :: before) behind = other (front ++ c :: before) behind := by
        simpa only [List.append_assoc, List.singleton_append] using ih (front ++ [c])
      have hprepend := prepend_inj [c] (cutAt_ne_nil counts (front ++ [c]) rest)
        (cutAt_ne_nil other (front ++ [c]) rest)
      rw [forall_comma_cons, ← hlater, List.append_nil, cutAt, cutAt]
      by_cases hc : c = ','
      · subst hc
        cases hcounts : counts front rest with
        | true =>
            cases hother : other front rest with
            | true => simp
            | false => simp [nil_cons_ne_prepend]
        | false =>
            cases hother : other front rest with
            | true => simp [nil_cons_ne_prepend.symm]
            | false => simpa using hprepend
      · simpa [hc] using hprepend

/-- The pieces of a body between the commas outside of all parentheses. -/
def cutOutside (body : List Char) : List (List Char) :=
  cutAt (fun front _ => depth front == 0) [] body

/-- A balanced body is cut at every comma outside of its parentheses, and at every one inside behind
which a further parenthesis opens next. -/
theorem cutBody_of_isBalanced (balanced : IsBalanced body) :
    cutBody body = cutAt (fun front rest => depth front == 0 || opensNext rest) [] body := by
  rw [cutBody_eq_cutAt [], cutAt_eq_iff]
  rintro front rest rfl
  rw [List.nil_append, Bool.eq_iff_iff, Bool.not_eq_true', Bool.eq_false_iff, Ne,
    balanced.closesNext_iff]
  simp [or_iff_not_imp_left]

/-- No comma inside parentheses stands before a further one that opens. -/
def HasSafeCommas (body : List Char) : Prop :=
  ∀ front rest, body = front ++ ',' :: rest → opensNext rest = true → depth front = 0

/-- So the commas outside are the only ones at which it is cut exactly if those inside are safe. -/
theorem cutBody_eq_cutOutside_iff (balanced : IsBalanced body) :
    cutBody body = cutOutside body ↔ HasSafeCommas body := by
  rw [cutBody_of_isBalanced balanced, cutOutside, cutAt_eq_iff]
  refine forall_congr' fun front => forall_congr' fun rest => imp_congr_right fun _ => ?_
  rw [List.nil_append]
  cases opensNext rest <;> simp

/-- The columns of the pieces of a body. -/
def readPieces (primaryName : Option String) (pieces : List (List Char)) : List ColumnDefinition :=
  (clausesOf pieces).foldl addClause ((columnsOf pieces).foldl (addFragment primaryName) [])

/-- The columns of a balanced body are those of the pieces between its commas outside of all parentheses
and those inside behind which a further parenthesis opens next. If there are none of the latter, and only
then, it is cut at the ones outside alone, and its columns are those of the pieces between these. -/
theorem readBody_of_isBalanced (balanced : IsBalanced body) :
    readBody body = readPieces (primaryName? body)
      (cutAt (fun front rest => depth front == 0 || opensNext rest) [] body) ∧
    (cutBody body = cutOutside body ↔ HasSafeCommas body) ∧
    (HasSafeCommas body → readBody body = readPieces (primaryName? body) (cutOutside body)) := by
  have houtside := cutBody_eq_cutOutside_iff balanced
  refine ⟨?_, houtside, fun safe => ?_⟩
  · rw [readBody_eq, cutBody_of_isBalanced balanced, readPieces]
  · rw [readBody_eq, houtside.mpr safe, readPieces]

/-- A body with commas inside two pairs of parentheses, each before one that closes. -/
def pricesBody : List Char :=
  "price decimal(10, 2) CHECK (price > least((2), 1)), qty int".toList

theorem readBody_pricesBody : IsBalanced pricesBody ∧
    readBody pricesBody = readPieces (primaryName? pricesBody)
      ["price decimal(10, 2) CHECK (price > least((2), 1))".toList, " qty int".toList] := by
  have balanced : IsBalanced pricesBody := by decide +kernel
  have hcut : cutOutside pricesBody =
      ["price decimal(10, 2) CHECK (price > least((2), 1))".toList, " qty int".toList] := by
    decide +kernel
  have safe := (readBody_of_isBalanced balanced).2.1.mp (by decide +kernel)
  exact ⟨balanced, hcut ▸ (readBody_of_isBalanced balanced).2.2 safe⟩

/-- A comma inside parentheses starts a definition if a further parenthesis opens behind it. -/
theorem nested_comma_starts_definition :
    let body := "a int CHECK (least(a, b mod (2)) > 0), c int".toList
    IsBalanced body ∧ '\x27' ∉ body ∧ '\x22' ∉ body ∧
      (readBody body).map (·.name) = ["a", "b", "c"] ∧
      (readPieces (primaryName? body) (cutOutside body)).map (·.name) = ["a", "c"] := by
  decide +kernel

end ColumnDefinition

end MockSql
