/-
# Pieces between outer commas

The group that a text begins with is found exactly if there is one, and there is only one. The inside of
a group is a well-nested text, and it is cut at its commas outside of quotes and parentheses and at no
others. Its pieces are trimmed, a blank one counts unless it is the last, and each is well-nested again.
-/

import MockSql.Proofs.Depths
import MockSql.Proofs.NestedCommas

namespace MockSql.Literal

open MockSql.Text
open MockSql.ColumnDefinition (cutAt cutAt_ne_nil forall_comma_cons prepend prepend_append
  intercalate_prepend)

variable {text body front before : List Char} {pieces later : List (List Char)}

/-- One of the commas between the pieces of a text stands behind this front of it. -/
inductive IsCut : List (List Char) → List Char → Prop
  | first {piece : List Char} {later : List (List Char)} (more : later ≠ []) :
      IsCut (piece :: later) piece
  | later {piece before : List Char} {later : List (List Char)} (isCut : IsCut later before) :
      IsCut (piece :: later) (piece ++ ',' :: before)

/-- A cut stands behind the first piece, if there are more, or behind the comma there. -/
theorem isCut_cons_iff {piece : List Char} : IsCut (piece :: later) before ↔
    (later ≠ [] ∧ before = piece) ∨ ∃ inner, IsCut later inner ∧ before = piece ++ ',' :: inner := by
  constructor
  · rintro (more | isCut)
    · exact .inl ⟨more, rfl⟩
    · exact .inr ⟨_, isCut, rfl⟩
  · rintro (⟨more, rfl⟩ | ⟨inner, isCut, rfl⟩)
    · exact .first more
    · exact .later isCut

/-- A text before the first piece stands before all cuts. -/
theorem isCut_prepend_iff (hpieces : pieces ≠ []) (inner : List Char) :
    IsCut (prepend text pieces) (text ++ inner) ↔ IsCut pieces inner := by
  obtain ⟨piece, later, rfl⟩ := List.exists_cons_of_ne_nil hpieces
  simp only [prepend, isCut_cons_iff, List.append_assoc, List.append_cancel_left_eq]

section CutAt

variable (counts : List Char → List Char → Bool)

/-- A text is its pieces with commas between them. -/
theorem intercalate_cutAt (front text : List Char) :
    [','].intercalate (cutAt counts front text) = text := by
  induction text generalizing front with
  | nil => rfl
  | cons c rest ih =>
      have hne := cutAt_ne_nil counts (front ++ [c]) rest
      rw [cutAt]
      split
      next hcounts =>
        simp only [Bool.and_eq_true, beq_iff_eq] at hcounts
        rw [List.intercalate_cons_of_ne_nil hne, ih, hcounts.1]
        rfl
      next => rw [intercalate_prepend hne, ih, List.singleton_append]

/-- A text is cut at exactly the commas that count. -/
theorem isCut_cutAt_iff (front text : List Char) : ∀ before behind, text = before ++ ',' :: behind →
    (IsCut (cutAt counts front text) before ↔ counts (front ++ before) behind = true) := by
  induction text generalizing front with
  | nil => simp
  | cons c rest ih =>
      have hne := cutAt_ne_nil counts (front ++ [c]) rest
      have hlater : ∀ before behind, rest = before ++ ',' :: behind →
          (IsCut (cutAt counts (front ++ [c]) rest) before ↔
            counts (front ++ c :: before) behind = true) := by
        simpa only [List.append_assoc, List.singleton_append] using ih (front ++ [c])
      rw [forall_comma_cons, cutAt]
      split
      next hcounts =>
        simp only [Bool.and_eq_true, beq_iff_eq] at hcounts
        obtain ⟨rfl, hcounts⟩ := hcounts
        refine ⟨fun _ => ?_, fun before behind hrest => ?_⟩
        · simpa [isCut_cons_iff, hcounts] using hne
        · simpa [isCut_cons_iff] using hlater before behind hrest
      next hcounts =>
        refine ⟨fun hc => ?_, fun before behind hrest => ?_⟩
        · have huncut : ¬ IsCut (prepend [c] (cutAt counts (front ++ [c]) rest)) [] := by
            obtain ⟨piece, pieces, hcut⟩ := List.exists_cons_of_ne_nil hne
            simp [hcut, isCut_cons_iff]
          obtain rfl := hc
          have hnot : counts front rest = false := by simpa using hcounts
          simp [huncut, hnot]
        · exact (isCut_prepend_iff hne before).trans (hlater before behind hrest)

end CutAt

/-- The pieces of a text between its commas outside of quotes and parentheses. -/
structure IsCutting (text : List Char) (pieces : List (List Char)) : Prop where
  nonempty : pieces ≠ []
  joined : [','].intercalate pieces = text
  outer : ∀ front rest, text = front ++ ',' :: rest → (IsCut pieces front ↔ HasDepth front 0)

/-- Whether a comma behind a front stands outside of quotes and parentheses. -/
def countsBehind (front _rest : List Char) : Bool :=
  decide (HasDepth front 0)

/-- It does if a scan of the front ends outside, which is where a list is cut. -/
theorem countsBehind_eq (front rest : List Char) : countsBehind front rest =
    ((Nesting.outside.after front).isBare && (Nesting.outside.after front).depth == 0) := by
  rw [countsBehind, Bool.eq_iff_iff, decide_eq_true_iff, hasDepth_iff]
  cases Nesting.outside.after front
  simp [Nesting.isBare]

theorem isCutting_cutAt (text : List Char) : IsCutting text (cutAt countsBehind [] text) where
  nonempty := cutAt_ne_nil countsBehind [] text
  joined := intercalate_cutAt countsBehind [] text
  outer := by
    intro front rest htext
    rw [isCut_cutAt_iff countsBehind [] text front rest htext]
    exact decide_eq_true_iff

/-- Pieces without the last one, if that is blank. -/
def withoutBlankLast (pieces : List (List Char)) : List (List Char) :=
  if pieces.getLast? = some [] then pieces.dropLast else pieces

theorem withoutBlankLast_cons (piece : List Char) (hlater : later ≠ []) :
    withoutBlankLast (piece :: later) = piece :: withoutBlankLast later := by
  have hlast : (piece :: later).getLast? = later.getLast? := by
    obtain ⟨next, rest, rfl⟩ := List.exists_cons_of_ne_nil hlater
    rfl
  rw [withoutBlankLast, withoutBlankLast, hlast, List.dropLast_cons_of_ne_nil hlater]
  split <;> rfl

theorem mem_of_mem_withoutBlankLast {piece : List Char} (hpiece : piece ∈ withoutBlankLast pieces) :
    piece ∈ pieces := by
  unfold withoutBlankLast at hpiece
  split at hpiece
  next => exact List.mem_of_mem_dropLast hpiece
  next => exact hpiece

/-- Behind a front that has been read, a list is cut at the outer commas of the whole. -/
theorem splitFrom_eq (front current rest : List Char) :
    splitFrom (Nesting.outside.after front) current rest =
      withoutBlankLast ((prepend current.reverse (cutAt countsBehind front rest)).map trim) := by
  induction rest generalizing front current with
  | nil =>
      simp only [splitFrom, cutAt, prepend, List.append_nil, List.map_cons, List.map_nil]
      cases trim current.reverse <;> simp [withoutBlankLast]
  | cons c rest ih =>
      have hne := cutAt_ne_nil countsBehind (front ++ [c]) rest
      obtain ⟨piece, pieces, hcut⟩ := List.exists_cons_of_ne_nil hne
      rw [splitFrom, Bool.and_assoc, ← countsBehind_eq front rest, cutAt]
      split
      next hcomma =>
        simp only [Bool.and_eq_true, beq_iff_eq] at hcomma
        obtain ⟨rfl, hcounts⟩ := hcomma
        have hsame : Nesting.outside.after front = Nesting.outside.after (front ++ [',']) := by
          have houtside := hasDepth_iff.mp (of_decide_eq_true hcounts)
          rw [Nesting.after_append, houtside]
          rfl
        rw [hsame, ih, hcut]
        simp [prepend, withoutBlankLast_cons]
      next =>
        have hnext : (Nesting.outside.after front).step c = Nesting.outside.after (front ++ [c]) := by
          simp
        rw [hnext, ih, List.reverse_cons, prepend_append]

/-- A value list is cut at its outer commas, its pieces are trimmed, and a blank last one is dropped. -/
theorem splitValues_eq (text : List Char) :
    splitValues text = withoutBlankLast ((cutAt countsBehind [] text).map trim) := by
  obtain ⟨piece, pieces, hcut⟩ := List.exists_cons_of_ne_nil (cutAt_ne_nil countsBehind [] text)
  have hsplit := splitFrom_eq [] [] text
  rw [hcut] at hsplit ⊢
  exact hsplit

/-- The pieces between outer commas of a well-nested text are well-nested. -/
theorem IsWellNested.of_mem (isWellNested : IsWellNested ([','].intercalate pieces))
    (outer : ∀ front, IsCut pieces front → HasDepth front 0) :
    ∀ piece ∈ pieces, IsWellNested piece := by
  induction pieces with
  | nil => simp
  | cons first later ih =>
      by_cases hlater : later = []
      · subst hlater
        simpa using isWellNested
      · have hfirst := outer first (.first hlater)
        have hjoined : [','].intercalate (first :: later) = first ++ ',' :: [','].intercalate later := by
          simp [List.intercalate_cons_of_ne_nil hlater]
        obtain ⟨nestedFirst, nestedLater⟩ := (hjoined ▸ isWellNested).of_comma hfirst
        have houter : ∀ front, IsCut later front → HasDepth front 0 := by
          intro front isCut
          have hboth : HasDepth (first ++ ',' :: front) 0 := outer _ (.later isCut)
          rw [List.append_cons] at hboth
          exact hboth.of_append hfirst.append_comma
        exact List.forall_mem_cons.mpr ⟨nestedFirst, ih nestedLater houter⟩

/-- A cut stands before a comma of the text. -/
theorem IsCut.exists_rest (isCut : IsCut pieces front) :
    ∃ rest, [','].intercalate pieces = front ++ ',' :: rest := by
  induction isCut with
  | @first piece later more =>
      exact ⟨[','].intercalate later, by simp [List.intercalate_cons_of_ne_nil more]⟩
  | @later piece before later isCut ih =>
      have more : later ≠ [] := by
        rintro rfl
        cases isCut
      obtain ⟨rest, hrest⟩ := ih
      exact ⟨rest, by simp [List.intercalate_cons_of_ne_nil more, hrest]⟩

theorem IsCutting.isWellNested_of_mem (isCutting : IsCutting text pieces)
    (isWellNested : IsWellNested text) : ∀ piece ∈ pieces, IsWellNested piece := by
  refine (isCutting.joined ▸ isWellNested).of_mem fun front isCut => ?_
  obtain ⟨rest, hrest⟩ := isCut.exists_rest
  exact (isCutting.outer front rest (isCutting.joined ▸ hrest)).mp isCut

/-- A text begins, after white space, with a group that has this inside. -/
structure BeginsWithGroup (text body : List Char) : Prop where
  leads : '(' :: (body ++ [')']) <+: trimStart text
  isEnclosed : IsEnclosed body

/-- The inside of the group that a text begins with is found. -/
theorem leadingGroup?_iff : leadingGroup? text = some body ↔ BeginsWithGroup text body := by
  rw [leadingGroup?_eq_some_iff]
  constructor
  · rintro ⟨rest, htext, isGroupBody⟩
    exact ⟨⟨rest, by simp [htext]⟩, isEnclosed_iff.mpr (isGroupBody_iff.mp isGroupBody)⟩
  · rintro ⟨⟨rest, htext⟩, isEnclosed⟩
    exact ⟨rest, by simp [← htext], isGroupBody_iff.mpr (isEnclosed_iff.mp isEnclosed)⟩

/-- The scans of value lists are exact. The inside of the group that a text begins with is found if there
is such a group, it is the only one, and nothing is found if there is none. The inside is cut at exactly
its commas outside of quotes and parentheses; its pieces are trimmed, only a blank last one is dropped,
and in each of them, trimmed or not, quotes are closed and parentheses outside of quotes are balanced. -/
theorem value_list_scans_exact (text : List Char) :
    (∀ body, leadingGroup? text = some body ↔ BeginsWithGroup text body) ∧
    (∀ body other, BeginsWithGroup text body → BeginsWithGroup text other → body = other) ∧
    (leadingGroup? text = none ↔ ∀ body, ¬ BeginsWithGroup text body) ∧
    ∀ body, BeginsWithGroup text body → ∃ pieces, IsCutting body pieces ∧
      splitValues body = withoutBlankLast (pieces.map trim) ∧
      (∀ piece ∈ pieces, IsWellNested piece) ∧ ∀ piece ∈ splitValues body, IsWellNested piece := by
  refine ⟨fun body => leadingGroup?_iff, ?_, ?_, ?_⟩
  · intro body other hbody hother
    exact Option.some.inj ((leadingGroup?_iff.mpr hbody).symm.trans (leadingGroup?_iff.mpr hother))
  · simp only [← leadingGroup?_iff]
    exact Option.eq_none_iff_forall_ne_some
  · intro body hbody
    have isCutting := isCutting_cutAt body
    have nested := isCutting.isWellNested_of_mem (isEnclosed_iff.mp hbody.isEnclosed)
    refine ⟨_, isCutting, splitValues_eq body, nested, fun piece hpiece => ?_⟩
    rw [splitValues_eq] at hpiece
    obtain ⟨whole, hwhole, rfl⟩ := List.mem_map.mp (mem_of_mem_withoutBlankLast hpiece)
    exact (nested whole hwhole).trim

/-- A group with quotes of both kinds, with parentheses and commas inside quotes, and with a blank last
piece; and a text that begins with a parenthesis that nothing closes. -/
theorem value_list_scans_exact_of_nested_quotes :
    let text := " ('a)\x22, (b', (2, \x22it's\x22), f(1, 2), ), (4)".toList
    let body := "'a)\x22, (b', (2, \x22it's\x22), f(1, 2), ".toList
    BeginsWithGroup text body ∧
      (∃ pieces, IsCutting body pieces ∧ splitValues body = withoutBlankLast (pieces.map trim) ∧
        ∀ piece ∈ pieces, IsWellNested piece) ∧
      splitValues body = ["'a)\x22, (b'".toList, "(2, \x22it's\x22)".toList, "f(1, 2)".toList] ∧
      ∀ other, ¬ BeginsWithGroup "('a', (1)".toList other := by
  intro text body
  obtain ⟨hfound, -, -, hpieces⟩ := value_list_scans_exact text
  have hbody : BeginsWithGroup text body := (hfound body).mp (by decide +kernel)
  obtain ⟨pieces, isCutting, hsplit, nested, -⟩ := hpieces body hbody
  obtain ⟨-, -, hnone, -⟩ := value_list_scans_exact "('a', (1)".toList
  exact ⟨hbody, ⟨pieces, isCutting, hsplit, nested⟩, by decide +kernel,
    hnone.mp (by decide +kernel)⟩

end MockSql.Literal
