/-
# Depths of texts

A text in which every quote is closed is a sequence of quoted runs and of characters outside of them, and
its depth is the number of parentheses that it opens and does not close outside of the runs. What a scan
keeps about the characters read so far describes them in these terms: they have a depth, or they are a
text that has one with a run behind it that is still open. So a scan ends outside of quotes exactly behind
the texts that have a depth, and it finds the end of a group exactly behind a well-nested text.
-/

import MockSql.Proofs.Groups
import MockSql.Proofs.Trim

namespace MockSql.Literal

open MockSql.Text

/-- A text in which every quoted run is closed, and how many more parentheses it opens than it closes
outside of these runs. A run goes on to the next quote of the kind that opened it, whatever stands
between. -/
inductive HasDepth : List Char → Int → Prop
  | nil : HasDepth [] 0
  | opening {rest : List Char} {depth : Int} (later : HasDepth rest depth) :
      HasDepth ('(' :: rest) (depth + 1)
  | closing {rest : List Char} {depth : Int} (later : HasDepth rest depth) :
      HasDepth (')' :: rest) (depth - 1)
  | other {c : Char} {rest : List Char} {depth : Int} (unquoted : isQuote c = false)
      (noParenthesis : c ≠ '(' ∧ c ≠ ')') (later : HasDepth rest depth) : HasDepth (c :: rest) depth
  | quoted {mark : Char} {content rest : List Char} {depth : Int} (isMark : isQuote mark = true)
      (free : mark ∉ content) (later : HasDepth rest depth) :
      HasDepth (mark :: (content ++ mark :: rest)) depth

variable {text front rest : List Char} {depth later : Int} {quote : Option Char}

namespace HasDepth

/-- The depth of two texts in a row is the sum of their depths. -/
theorem append (hasDepth : HasDepth text depth) (hlater : HasDepth rest later) :
    HasDepth (text ++ rest) (depth + later) := by
  induction hasDepth with
  | nil => simpa using hlater
  | @opening _ depth _ ih =>
      have hsum : depth + 1 + later = depth + later + 1 := by omega
      exact hsum ▸ ih.opening
  | @closing _ depth _ ih =>
      have hsum : depth - 1 + later = depth + later - 1 := by omega
      exact hsum ▸ ih.closing
  | other unquoted noParenthesis _ ih => exact ih.other unquoted noParenthesis
  | quoted isMark free _ ih => simpa using ih.quoted isMark free

/-- A comma behind a text does not change its depth. -/
theorem append_comma (hasDepth : HasDepth text depth) : HasDepth (text ++ [',']) depth := by
  simpa using hasDepth.append (HasDepth.nil.other (by decide) (by decide))

/-- A text without quotes and parentheses has the depth zero. -/
theorem of_forall (hplain : ∀ c ∈ text, isQuote c = false ∧ c ≠ '(' ∧ c ≠ ')') :
    HasDepth text 0 := by
  induction text with
  | nil => exact .nil
  | cons c rest ih =>
      obtain ⟨unquoted, noParenthesis⟩ := hplain c List.mem_cons_self
      exact (ih fun d hd => hplain d (List.mem_cons_of_mem c hd)).other unquoted noParenthesis

end HasDepth

namespace Nesting

variable {nesting : Nesting} {c mark : Char} {content : List Char}

theorem step_mark : (⟨some mark, depth⟩ : Nesting).step mark = ⟨none, depth⟩ := by
  simp [step]

theorem step_content (hc : c ≠ mark) :
    (⟨some mark, depth⟩ : Nesting).step c = ⟨some mark, depth⟩ := by
  simp [step, hc]

theorem step_opening : (⟨none, depth⟩ : Nesting).step '(' = ⟨none, depth + 1⟩ :=
  rfl

theorem step_closing : (⟨none, depth⟩ : Nesting).step ')' = ⟨none, depth - 1⟩ :=
  rfl

theorem step_quote (isMark : isQuote c = true) :
    (⟨none, depth⟩ : Nesting).step c = ⟨some c, depth⟩ := by
  simp [step, isMark]

theorem step_other (unquoted : isQuote c = false) (noParenthesis : c ≠ '(' ∧ c ≠ ')') :
    (⟨none, depth⟩ : Nesting).step c = ⟨none, depth⟩ := by
  simp [step, unquoted, noParenthesis]

/-- Inside a quote nothing but that quote counts. -/
theorem after_content (free : mark ∉ content) :
    (⟨some mark, depth⟩ : Nesting).after content = ⟨some mark, depth⟩ := by
  induction content with
  | nil => rfl
  | cons c content ih =>
      obtain ⟨hc, hlater⟩ := List.ne_and_not_mem_of_not_mem_cons free
      rw [after_cons, step_content hc.symm, ih hlater]

/-- A nesting describes a text: outside of quotes the text has the depth that the nesting says, and
inside a quote there is a text with that depth before the run that is open. -/
inductive Describes : Nesting → List Char → Prop
  | outside {text : List Char} {depth : Int} (hasDepth : HasDepth text depth) :
      Describes ⟨none, depth⟩ text
  | inside {front content : List Char} {mark : Char} {depth : Int} (hasDepth : HasDepth front depth)
      (isMark : isQuote mark = true) (free : mark ∉ content) :
      Describes ⟨some mark, depth⟩ (front ++ mark :: content)

/-- One more character read is described by the next nesting. -/
theorem Describes.step (describes : nesting.Describes text) (c : Char) :
    (nesting.step c).Describes (text ++ [c]) := by
  cases describes with
  | @outside _ depth hasDepth =>
      cases hquote : isQuote c with
      | true =>
          rw [step_quote hquote]
          exact .inside hasDepth hquote List.not_mem_nil
      | false =>
          by_cases hopening : c = '('
          · subst hopening
            rw [step_opening]
            simpa using Describes.outside (hasDepth.append HasDepth.nil.opening)
          by_cases hclosing : c = ')'
          · subst hclosing
            rw [step_closing]
            simpa [← Int.sub_eq_add_neg] using Describes.outside (hasDepth.append HasDepth.nil.closing)
          rw [step_other hquote ⟨hopening, hclosing⟩]
          simpa using
            Describes.outside (hasDepth.append (HasDepth.nil.other hquote ⟨hopening, hclosing⟩))
  | @inside front content mark depth hasDepth isMark free =>
      by_cases hc : c = mark
      · subst hc
        rw [step_mark]
        simpa using Describes.outside (hasDepth.append (HasDepth.nil.quoted isMark free))
      · rw [step_content hc, List.append_assoc, List.cons_append]
        exact .inside hasDepth isMark (by simp [free, Ne.symm hc])

/-- A whole text read is described by the nesting after it. -/
theorem Describes.after (describes : nesting.Describes text) (rest : List Char) :
    (nesting.after rest).Describes (text ++ rest) := by
  induction rest generalizing nesting text with
  | nil => simpa using describes
  | cons c rest ih => simpa using ih (describes.step c)

theorem describes_after (text : List Char) : (outside.after text).Describes text :=
  (Describes.outside HasDepth.nil).after text

/-- From outside of quotes, a text raises the depth of a scan by its own. -/
theorem after_of_hasDepth (hasDepth : HasDepth text depth) (start : Int) :
    (⟨none, start⟩ : Nesting).after text = ⟨none, start + depth⟩ := by
  induction hasDepth generalizing start with
  | nil => simp
  | opening _ ih =>
      rw [after_cons, step_opening, ih]
      congr 1
      omega
  | closing _ ih =>
      rw [after_cons, step_closing, ih]
      congr 1
      omega
  | other unquoted noParenthesis _ ih => rw [after_cons, step_other unquoted noParenthesis, ih]
  | quoted isMark free _ ih =>
      rw [after_cons, step_quote isMark, after_append, after_content free, after_cons, step_mark, ih]

/-- From outside of quotes, a scan of a text reaches what describes the text. -/
theorem Describes.after_eq (describes : (⟨quote, depth⟩ : Nesting).Describes text) (start : Int) :
    (⟨none, start⟩ : Nesting).after text = ⟨quote, start + depth⟩ := by
  cases describes with
  | outside hasDepth => exact after_of_hasDepth hasDepth start
  | inside hasDepth isMark free =>
      rw [after_append, after_of_hasDepth hasDepth, after_cons, step_quote isMark, after_content free]

/-- So there is one nesting that describes a text: the one in which a scan from its beginning ends. -/
theorem describes_iff : nesting.Describes text ↔ outside.after text = nesting := by
  constructor
  · intro describes
    simpa [outside] using describes.after_eq 0
  · rintro rfl
    exact describes_after text

end Nesting

open Nesting

/-- A text has a depth exactly if a scan of it ends outside of quotes, at that depth. -/
theorem hasDepth_iff : HasDepth text depth ↔ outside.after text = ⟨none, depth⟩ := by
  rw [← describes_iff]
  constructor
  · exact .outside
  · rintro ⟨hasDepth⟩
    exact hasDepth

instance (text : List Char) (depth : Int) : Decidable (HasDepth text depth) :=
  decidable_of_iff _ hasDepth_iff.symm

namespace HasDepth

theorem unique (hasDepth : HasDepth text depth) (other : HasDepth text later) : depth = later := by
  have hsame := (hasDepth_iff.mp hasDepth).symm.trans (hasDepth_iff.mp other)
  exact congrArg Nesting.depth hsame

/-- Behind a text that has a depth, what follows has the rest of the depth of both. -/
theorem of_append (both : HasDepth (front ++ rest) later) (hasDepth : HasDepth front depth) :
    HasDepth rest (later - depth) := by
  have hscan := hasDepth_iff.mp both
  rw [after_append, hasDepth_iff.mp hasDepth] at hscan
  generalize hrest : outside.after rest = nesting
  obtain ⟨quote, inner⟩ := nesting
  rw [(describes_iff.mpr hrest).after_eq depth] at hscan
  obtain ⟨rfl, rfl⟩ := Nesting.mk.inj hscan
  rw [hasDepth_iff, hrest]
  congr 1
  omega

/-- Before a text without quotes, every quote is closed if all are: a run that is open there would stay
open. -/
theorem exists_of_append (both : HasDepth (text ++ rest) depth)
    (unquoted : ∀ c ∈ rest, isQuote c = false) : ∃ inner, HasDepth text inner := by
  generalize hscan : outside.after text = nesting
  cases describes_iff.mpr hscan with
  | outside hasDepth => exact ⟨_, hasDepth⟩
  | @inside front content mark inner hasDepth isMark free =>
      have hfree : mark ∉ content ++ rest := by
        intro hmem
        rcases List.mem_append.mp hmem with hmem | hmem
        · exact free hmem
        · simp [unquoted mark hmem] at isMark
      have hopen := describes_iff.mp (Describes.inside hasDepth isMark hfree)
      rw [List.append_assoc, List.cons_append, hasDepth_iff, hopen] at both
      cases both

/-- Before a text without quotes that has a depth stands the rest of the depth of both. -/
theorem of_append_unquoted (both : HasDepth (text ++ rest) depth) (hrest : HasDepth rest later)
    (unquoted : ∀ c ∈ rest, isQuote c = false) : HasDepth text (depth - later) := by
  obtain ⟨inner, hasDepth⟩ := both.exists_of_append unquoted
  obtain rfl := both.unique (hasDepth.append hrest)
  simpa using hasDepth

end HasDepth

/-- A well-nested text: every quoted run in it is closed, outside of these no parenthesis closes what is not
open, and at its end none is open. -/
structure IsWellNested (text : List Char) : Prop where
  settled : HasDepth text 0
  opened : ∀ front depth, front <+: text → HasDepth front depth → 0 ≤ depth

/-- What can stand between the parentheses of a group. With these around it, every quoted run is closed,
and outside of the runs the first parenthesis stays open until the last one closes it. -/
structure IsEnclosed (body : List Char) : Prop where
  settled : HasDepth ('(' :: (body ++ [')'])) 0
  staysOpen : ∀ front depth, front <+: body → HasDepth ('(' :: front) depth → 1 ≤ depth

variable {body : List Char}

/-- Behind an opening parenthesis the depth is less by one. -/
theorem HasDepth.of_opening (hasDepth : HasDepth ('(' :: text) depth) : HasDepth text (depth - 1) := by
  have both : HasDepth (['('] ++ text) depth := hasDepth
  exact both.of_append HasDepth.nil.opening

/-- These are the well-nested texts. -/
theorem isEnclosed_iff : IsEnclosed body ↔ IsWellNested body := by
  constructor
  · rintro ⟨settled, staysOpen⟩
    constructor
    · have unquoted : ∀ c ∈ [')'], isQuote c = false := by decide
      simpa using settled.of_opening.of_append_unquoted HasDepth.nil.closing unquoted
    · intro front depth hfront hasDepth
      have hopened := staysOpen front (depth + 1) hfront hasDepth.opening
      omega
  · rintro ⟨settled, opened⟩
    constructor
    · simpa using (settled.append HasDepth.nil.closing).opening
    · intro front depth hfront hasDepth
      have hopened := opened front (depth - 1) hfront hasDepth.of_opening
      omega

/-- A scan finds the end of a group exactly behind a well-nested text. Fronts that end in a quoted run ask
for no more than the others, since the depth in a run is that of the text before it. -/
theorem isGroupBody_iff : IsGroupBody body ↔ IsWellNested body := by
  constructor
  · rintro ⟨staysOpen, settled⟩
    constructor
    · generalize hbody : outside.after body = nesting
      obtain ⟨quote, inner⟩ := nesting
      rw [opened, (describes_iff.mpr hbody).after_eq 1] at settled
      obtain ⟨rfl, hinner⟩ := Nesting.mk.inj settled
      rw [hasDepth_iff, hbody]
      congr 1
      omega
    · intro front depth hfront hasDepth
      have hscan := (Describes.outside hasDepth).after_eq 1
      have hopened : 1 ≤ 1 + depth := by simpa [opened, hscan] using staysOpen front hfront
      omega
  · rintro ⟨settled, hopened⟩
    constructor
    · intro front hfront
      generalize hscan : outside.after front = nesting
      obtain ⟨quote, depth⟩ := nesting
      have hdescribes := describes_iff.mpr hscan
      have hdepth : 0 ≤ depth := by
        cases hdescribes with
        | outside hasDepth => exact hopened front depth hfront hasDepth
        | @inside closed _ _ _ hasDepth _ _ =>
            exact hopened closed depth ((List.prefix_append closed _).trans hfront) hasDepth
      have hstays : 1 ≤ 1 + depth := by omega
      simpa [opened, hdescribes.after_eq 1] using hstays
    · rw [opened, (Describes.outside settled).after_eq 1]
      rfl

/-- White space is no quote and no parenthesis. -/
theorem plain_of_isBlank {c : Char} (hblank : isBlank c = true) :
    isQuote c = false ∧ c ≠ '(' ∧ c ≠ ')' := by
  refine ⟨?_, ?_, ?_⟩
  · cases hquote : isQuote c with
    | false => rfl
    | true =>
        simp only [isQuote, Bool.or_eq_true, beq_iff_eq] at hquote
        rcases hquote with rfl | rfl
        all_goals exact absurd hblank (by decide)
  all_goals
    rintro rfl
    exact absurd hblank (by decide)

namespace IsWellNested

/-- A comma outside of quotes and parentheses stands between two well-nested texts. -/
theorem of_comma (isWellNested : IsWellNested (front ++ ',' :: rest)) (hfront : HasDepth front 0) :
    IsWellNested front ∧ IsWellNested rest := by
  have hsplit : front ++ ',' :: rest = front ++ [','] ++ rest := by simp
  refine ⟨⟨hfront, fun before depth hbefore => ?_⟩, ⟨?_, fun before depth hbefore hasDepth => ?_⟩⟩
  · exact isWellNested.opened before depth (hbefore.trans (List.prefix_append _ _))
  · have hsettled := isWellNested.settled
    rw [hsplit] at hsettled
    exact hsettled.of_append hfront.append_comma
  · have hlater : front ++ [','] ++ before <+: front ++ ',' :: rest :=
      hsplit ▸ (List.prefix_append_right_inj _).mpr hbefore
    simpa using isWellNested.opened _ _ hlater (hfront.append_comma.append hasDepth)

/-- White space around a well-nested text does not matter. -/
theorem trim (isWellNested : IsWellNested text) : IsWellNested (trim text) := by
  obtain ⟨before, after, hblank, htext⟩ := exists_stripWhile isBlank text
  have hplain : ∀ c ∈ before ++ after, isQuote c = false ∧ c ≠ '(' ∧ c ≠ ')' := by
    intro c hc
    exact plain_of_isBlank (hblank c hc)
  have hbefore : HasDepth before 0 :=
    .of_forall fun c hc => hplain c (List.mem_append_left after hc)
  have hafter : HasDepth after 0 :=
    .of_forall fun c hc => hplain c (List.mem_append_right before hc)
  have hsettled := isWellNested.settled
  rw [htext] at hsettled
  constructor
  · have hboth := hsettled.of_append_unquoted hafter fun c hc =>
      (hplain c (List.mem_append_right before hc)).1
    exact hboth.of_append hbefore
  · intro front depth hfront hasDepth
    have hlater : before ++ front <+: text := by
      rw [htext, List.append_assoc]
      exact (List.prefix_append_right_inj before).mpr (hfront.trans (List.prefix_append _ _))
    simpa using isWellNested.opened _ _ hlater (hbefore.append hasDepth)

end IsWellNested

end MockSql.Literal
