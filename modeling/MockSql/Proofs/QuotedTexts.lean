/-
# Texts between quotes

What stands between two quotes of a body may be replaced by another text without quotes, commas and
parentheses: the body is cut at the same places, its primary key names the same columns, and the name
and the type of the column around the quotes stay as they are.
-/

import MockSql.Proofs.Bodies

namespace MockSql

open MockSql.Text

namespace ColumnDefinition

/-- A text without quotes, commas and parentheses. -/
def IsQuotable (text : List Char) : Prop :=
  ∀ c ∈ text, c ≠ '\x27' ∧ isUncut c = true

instance (text : List Char) : Decidable (IsQuotable text) :=
  inferInstanceAs (Decidable (∀ c ∈ text, c ≠ '\x27' ∧ isUncut c = true))

namespace IsQuotable

variable {text : List Char}

theorem not_mem_quote (isQuotable : IsQuotable text) : '\x27' ∉ text :=
  fun hmem => (isQuotable _ hmem).1 rfl

theorem not_mem_opening (isQuotable : IsQuotable text) : '(' ∉ text :=
  fun hmem => (isUncut_iff.mp (isQuotable _ hmem).2).2.1 rfl

theorem isUncut_quoted (isQuotable : IsQuotable text) : ∀ c ∈ quoted text [], isUncut c = true := by
  simp only [quoted, List.forall_mem_cons, List.forall_mem_append]
  exact ⟨by decide, fun c hc => (isQuotable c hc).2, by decide, by simp⟩

end IsQuotable

variable {name : String} {text other : List Char}

/-- Whether the primary key that a text begins with names a column first. -/
def namesPrimary? (name : String) (text : List Char) : Option Bool :=
  (primaryClause? text).map fun found => some name == leadingName? found.1

theorem primaryName?_beq (name : String) (body : List Char) :
    (some name == primaryName? body) = (findAnywhere? (namesPrimary? name) body).getD false := by
  have hfound : findAnywhere? (namesPrimary? name) body = _ :=
    findAnywhere?_map primaryClause? (fun found => some name == leadingName? found.1) body
  rw [hfound, primaryName?_eq]
  cases findAnywhere? primaryClause? body with
  | none => rfl
  | some found => rfl

/-- The first name of a bracket that reaches over a quoted text stands before that text, or it is no
name. -/
theorem leadingName?_quoted (hname : '\x27' ∉ name.toList) (inside behind text other : List Char) :
    (some name == leadingName? (inside ++ quoted text behind)) =
      (some name == leadingName? (inside ++ quoted other behind)) := by
  by_cases hcomma : ',' ∈ inside
  · obtain ⟨first, later, rfl, hfree⟩ := List.eq_append_cons_of_mem hcomma
    have hfirst : ∀ rest, (first ++ ',' :: later ++ rest).takeWhile (· != ',') = first := by
      intro rest
      rw [List.append_assoc]
      exact takeWhile_run (forall_bne_of_not_mem hfree) (by decide) _
    rw [leadingName?_eq, leadingName?_eq, hfirst, hfirst]
  · have hnone : ∀ text, (some name == leadingName? (inside ++ quoted text behind)) = false := by
      intro text
      have hquote : '\x27' ∈ (inside ++ quoted text behind).takeWhile (· != ',') := by
        rw [List.takeWhile_append_of_pos (forall_bne_of_not_mem hcomma)]
        exact List.mem_append_right _ (by simp [quoted])
      have hbare : '\x27' ∈ bareName ((inside ++ quoted text behind).takeWhile (· != ',')) :=
        mem_stripWhile (mem_stripWhile hquote (by decide)) (by decide)
      rw [leadingName?_eq]
      split
      next => rfl
      next =>
        refine beq_eq_false_iff_ne.mpr ?_
        rintro ⟨⟩
        exact hname (by rwa [String.toList_ofList])
    rw [hnone, hnone]

/-- A bracket closes before a quoted text, or behind it, but not in it. -/
theorem takeBracketed?_quoted (isQuotable : IsQuotable text) (front back : List Char) :
    takeBracketed? (front ++ quoted text back) = (afterChar? '(' front).bind fun inside =>
      ((untilClosing? inside).map (Prod.map id (· ++ quoted text back))).or
        ((untilClosing? back).map (Prod.map (inside ++ quoted text ·) id)) := by
  have hback : untilClosing? (quoted text back) =
      (untilClosing? back).map (Prod.map (quoted text ·) id) := by
    have hfree : ')' ∉ quoted text [] :=
      fun hmem => (isUncut_iff.mp (isQuotable.isUncut_quoted _ hmem)).2.2 rfl
    rw [quoted_eq_append, untilClosing?_append, untilClosing?_eq_none hfree]
    simp only [Option.map_none, Option.none_or, ← quoted_eq_append]
  have hopening : afterChar? '(' (front ++ quoted text back) =
      (afterChar? '(' front).map (· ++ quoted text back) :=
    afterChar?_stop _ (by decide)
  rw [takeBracketed?_eq, hopening, Option.bind_map]
  congr 1
  funext inside
  rw [Function.comp_apply, untilClosing?_append, hback, Option.map_map]
  rfl

theorem namesPrimary?_quoted (hname : '\x27' ∉ name.toList) (isQuotable : IsQuotable text)
    (isQuotable' : IsQuotable other) (front back : List Char) :
    namesPrimary? name (front ++ quoted text back) =
      namesPrimary? name (front ++ quoted other back) := by
  have hclause : ∀ text, primaryClause? (front ++ quoted text back) =
      (afterPhrase? ["primary", "key"] front).bind fun after =>
        takeBracketed? (trimStart after ++ quoted text back) := by
    intro text
    rw [primaryClause?, quoted, afterPhrase?_stop isStop_quote _ (by decide), Option.bind_map]
    simp only [Function.comp_def, trimStart_stop isStop_quote]
  rw [namesPrimary?, namesPrimary?, hclause, hclause]
  cases afterPhrase? ["primary", "key"] front with
  | none => rfl
  | some after =>
      rw [Option.bind_some, Option.bind_some, takeBracketed?_quoted isQuotable,
        takeBracketed?_quoted isQuotable']
      cases afterChar? '(' (trimStart after) with
      | none => rfl
      | some inside =>
          cases hinside : untilClosing? inside with
          | some closed => simp [hinside]
          | none =>
              cases hback : untilClosing? back with
              | none => simp [hinside]
              | some closed =>
                  simp [hinside, leadingName?_quoted hname inside closed.1 text other]

/-- Which column the primary key of a body names does not depend on a text between quotes. -/
theorem primaryName?_quoted (hname : '\x27' ∉ name.toList) (isQuotable : IsQuotable text)
    (isQuotable' : IsQuotable other) (front back : List Char) :
    (some name == primaryName? (front ++ quoted text back)) =
      (some name == primaryName? (front ++ quoted other back)) := by
  rw [primaryName?_beq, primaryName?_beq]
  congr 1
  induction front with
  | nil =>
      have hinside : ∀ {text : List Char}, IsQuotable text →
          findAnywhere? (namesPrimary? name) (quoted text back) =
            findAnywhere? (namesPrimary? name) back := by
        intro text isQuotable
        have hfree : '(' ∉ '\x27' :: text := by
          rw [List.mem_cons]
          rintro (heq | hmem)
          · cases heq
          · exact isQuotable.not_mem_opening hmem
        refine @findAnywhere?_append_cons _ _ '\x27' ('\x27' :: text) back fun later hlater => ?_
        rw [namesPrimary?, primaryClause?_stop_eq_none isStop_quote (by decide) fun hmem =>
          hfree (hlater.subset hmem)]
        rfl
      rw [List.nil_append, List.nil_append, hinside isQuotable, hinside isQuotable']
  | cons c front ih =>
      have hhere := namesPrimary?_quoted hname isQuotable isQuotable' (c :: front) back
      rw [List.cons_append, List.cons_append] at hhere ⊢
      rw [findAnywhere?, findAnywhere?, hhere, ih]

/-- How far a recogniser gets in a text with a quoted text: nowhere, to a place before the quotes, or to
one behind them; only in the last case can what it takes depend on what is quoted. -/
inductive Reach {α : Type} (recognise : List Char → Option (α × List Char)) (front back : List Char) :
    Prop
  | nowhere (hnone : ∀ text, IsQuotable text → recognise (front ++ quoted text back) = none)
  | before {taken : α} {lead rest : List Char} (hfront : front = lead ++ rest)
      (htaken : ∀ text, IsQuotable text →
        recognise (front ++ quoted text back) = some (taken, rest ++ quoted text back))
  | behind (htaken : ∀ text, IsQuotable text → ∃ taken rest, rest <:+ back ∧
      recognise (front ++ quoted text back) = some (taken, rest))

/-- What follows a bracket that white space may stand before. -/
def afterBracket? (text : List Char) : Option (List Char) :=
  (takeBracketed? (trimStart text)).map Prod.snd

theorem skipOptional_afterBracket? (front back : List Char) :
    (∃ lead rest, front = lead ++ rest ∧ ∀ text, IsQuotable text →
      skipOptional afterBracket? (front ++ quoted text back) = rest ++ quoted text back) ∨
    ∃ rest, rest <:+ back ∧ ∀ text, IsQuotable text →
      skipOptional afterBracket? (front ++ quoted text back) = rest := by
  have hbracket : ∀ text, IsQuotable text → afterBracket? (front ++ quoted text back) =
      (afterChar? '(' (trimStart front)).bind fun inside =>
        ((untilClosing? inside).map (Prod.snd · ++ quoted text back)).or
          ((untilClosing? back).map Prod.snd) := by
    intro text isQuotable
    rw [afterBracket?, quoted, trimStart_stop isStop_quote, ← quoted, takeBracketed?_quoted isQuotable,
      Option.map_bind]
    congr 1
    funext inside
    rw [Function.comp_apply, Option.map_or, Option.map_map, Option.map_map]
    rfl
  cases hopening : afterChar? '(' (trimStart front) with
  | none =>
      refine .inl ⟨[], front, rfl, fun text isQuotable => ?_⟩
      rw [skipOptional, hbracket text isQuotable, hopening]
      rfl
  | some inside =>
      cases hinside : untilClosing? inside with
      | some closed =>
          have hopened : inside <:+ front := by
            have htrimmed : trimStart front <:+ front := List.dropWhile_suffix isBlank
            rw [afterChar?_eq_some hopening] at htrimmed
            exact (List.suffix_cons _ _).trans htrimmed
          obtain ⟨lead, hlead⟩ := (untilClosing?_suffix hinside).trans hopened
          refine .inl ⟨lead, closed.2, hlead.symm, fun text isQuotable => ?_⟩
          rw [skipOptional, hbracket text isQuotable, hopening, Option.bind_some, hinside]
          rfl
      | none =>
          cases hback : untilClosing? back with
          | none =>
              refine .inl ⟨[], front, rfl, fun text isQuotable => ?_⟩
              rw [skipOptional, hbracket text isQuotable, hopening, Option.bind_some, hinside, hback]
              rfl
          | some closed =>
              refine .inr ⟨closed.2, ?_, fun text isQuotable => ?_⟩
              · exact untilClosing?_suffix hback
              · rw [skipOptional, hbracket text isQuotable, hopening, Option.bind_some, hinside, hback]
                rfl

theorem takeType?_reach (front back : List Char) : Reach takeType? front back := by
  have hrun : ∀ text, takeRun? isWord (front ++ quoted text back) =
      (takeRun? isWord front).map (Prod.map id (· ++ quoted text back)) :=
    fun text => takeRun?_stop isStop_quote _
  have htype : ∀ text, takeType? text = (takeRun? isWord text).map fun found =>
      (textBefore text (skipOptional afterBracket? found.2), skipOptional afterBracket? found.2) :=
    fun _ => rfl
  cases hword : takeRun? isWord front with
  | none =>
      refine .nowhere fun text _ => ?_
      rw [htype, hrun, hword]
      rfl
  | some found =>
      obtain ⟨word, after⟩ := found
      obtain ⟨rfl, -⟩ := takeRun?_eq_some_iff.mp hword
      rcases skipOptional_afterBracket? after back with ⟨lead, rest, rfl, hskip⟩ | ⟨rest, hrest, hskip⟩
      · refine @Reach.before _ _ _ _ (String.ofList (word ++ lead)) (word ++ lead) rest (by simp) ?_
        intro text isQuotable
        have hbefore := textBefore_append (word ++ lead) (rest ++ quoted text back)
        rw [htype, hrun, hword, Option.map_some, Option.map_some, Prod.map_snd, hskip text isQuotable,
          ← hbefore]
        simp only [List.append_assoc]
      · refine .behind fun text isQuotable => ?_
        rw [htype, hrun, hword, Option.map_some, Option.map_some, Prod.map_snd, hskip text isQuotable]
        exact ⟨_, rest, hrest, rfl⟩

/-- What follows the word for a type without signs. -/
def afterUnsigned? (text : List Char) : Option (List Char) :=
  (afterBlanks? text).bind (afterPhrase? ["unsigned"])

theorem skipOptional_suffix {recognise : List Char → Option (List Char)}
    (hsuffix : ∀ {text rest}, recognise text = some rest → rest <:+ text) (text : List Char) :
    skipOptional recognise text <:+ text := by
  rw [skipOptional]
  cases hrest : recognise text with
  | none => exact List.suffix_rfl
  | some rest => exact hsuffix hrest

theorem skipOptional_afterUnsigned?_suffix (text : List Char) :
    skipOptional afterUnsigned? text <:+ text := by
  refine skipOptional_suffix (fun h => ?_) text
  obtain ⟨spaced, hspaced, hword⟩ := Option.bind_eq_some_iff.mp h
  exact (afterKeyword?_suffix hword).trans (afterBlanks?_suffix hspaced)

theorem skipOptional_afterUnsigned? (front back text : List Char) :
    skipOptional afterUnsigned? (front ++ quoted text back) =
      skipOptional afterUnsigned? front ++ quoted text back := by
  have hunsigned : afterUnsigned? (front ++ quoted text back) =
      (afterUnsigned? front).map (· ++ quoted text back) := by
    rw [afterUnsigned?, quoted, afterBlanks?_stop isStop_quote, ← quoted, afterUnsigned?]
    cases afterBlanks? front with
    | none => rfl
    | some spaced => exact afterPhrase?_stop isStop_quote _ (by decide)
  rw [skipOptional, hunsigned, skipOptional]
  cases afterUnsigned? front <;> rfl

theorem takeColumnType?_reach (front back : List Char) : Reach takeColumnType? front back := by
  have htype : ∀ text, takeColumnType? text = (takeType? text).map fun found =>
      (textBefore text (skipOptional afterUnsigned? found.2),
        skipOptional afterUnsigned? found.2) :=
    fun _ => rfl
  cases takeType?_reach front back with
  | nowhere hnone =>
      refine .nowhere fun text isQuotable => ?_
      rw [htype, hnone text isQuotable, Option.map_none]
  | @before type lead rest hfront htaken =>
      obtain ⟨middle, hmiddle⟩ := skipOptional_afterUnsigned?_suffix rest
      have hsplit : front = (lead ++ middle) ++ skipOptional afterUnsigned? rest := by
        rw [hfront, List.append_assoc, hmiddle]
      refine @Reach.before _ _ _ _ (String.ofList (lead ++ middle)) _ _ hsplit fun text isQuotable => ?_
      have hbefore := textBefore_append (lead ++ middle)
        (skipOptional afterUnsigned? rest ++ quoted text back)
      rw [← List.append_assoc, ← hsplit] at hbefore
      rw [htype, htaken text isQuotable, Option.map_some, skipOptional_afterUnsigned?, hbefore]
  | behind htaken =>
      refine .behind fun text isQuotable => ?_
      obtain ⟨type, rest, hrest, htype'⟩ := htaken text isQuotable
      rw [htype, htype', Option.map_some]
      exact ⟨_, _, (skipOptional_afterUnsigned?_suffix rest).trans hrest, rfl⟩

theorem afterBracket?_suffix {rest : List Char} (h : afterBracket? text = some rest) : rest <:+ text := by
  obtain ⟨⟨inside, after⟩, hbracket, rfl⟩ := Option.map_eq_some_iff.mp h
  obtain ⟨htrim, -⟩ := takeBracketed?_eq_some_iff.mp hbracket
  have hsuffix : trimStart text <:+ text := List.dropWhile_suffix isBlank
  have hafter : after <:+ '(' :: (inside ++ ')' :: after) :=
    ((List.suffix_cons ')' after).trans (List.suffix_append inside _)).trans (List.suffix_cons '(' _)
  exact (htrim ▸ hafter).trans hsuffix

theorem takeColumnType?_suffix {type : String} {rest : List Char}
    (h : takeColumnType? text = some (type, rest)) : rest <:+ text := by
  obtain ⟨⟨bare, afterType⟩, htype, heq⟩ := Option.map_eq_some_iff.mp h
  cases heq
  obtain ⟨⟨word, afterWord⟩, hword, heq⟩ := Option.map_eq_some_iff.mp htype
  cases heq
  obtain ⟨hsplit, -⟩ := takeRun?_eq_some_iff.mp hword
  have hafter : afterWord <:+ text := hsplit ▸ List.suffix_append word afterWord
  exact (skipOptional_afterUnsigned?_suffix _).trans
    ((skipOptional_suffix afterBracket?_suffix _).trans hafter)

/-- The clauses of a column are the end of its fragment. -/
theorem readHeader?_suffix {type : String} {fragment clauses : List Char}
    (h : readHeader? fragment = some (name, type, clauses)) : clauses <:+ fragment := by
  simp only [readHeader?, Option.bind_eq_bind, Option.bind_eq_some_iff] at h
  obtain ⟨⟨taken, after⟩, hname, ⟨typed, behind⟩, ⟨spaced, hspaced, htype⟩, heq⟩ := h
  cases heq
  exact (takeColumnType?_suffix htype).trans ((afterBlanks?_suffix hspaced).trans (takeName?_suffix hname))

/-- If the clauses of a column begin before a quoted text, then so they do whatever is quoted, behind the
same name and the same type. -/
theorem readHeader?_quoted {type : String} {opening front back : List Char}
    (isQuotable : IsQuotable text) (isQuotable' : IsQuotable other)
    (hheader : readHeader? (front ++ quoted text back) =
      some (name, type, opening ++ quoted text back)) :
    readHeader? (front ++ quoted other back) = some (name, type, opening ++ quoted other back) := by
  have hread : ∀ text, readHeader? (front ++ quoted text back) =
      (takeName? front).bind fun named => (afterBlanks? named.2).bind fun spaced =>
        (takeColumnType? (spaced ++ quoted text back)).map fun typed => (named.1, typed) := by
    intro text
    rw [readHeader?, quoted, takeName?_stop isStop_quote, ← quoted]
    cases takeName? front with
    | none => rfl
    | some named =>
        simp only [Option.map_some, Option.bind_eq_bind, Option.bind_some, Prod.map_snd, quoted,
          afterBlanks?_stop isStop_quote]
        cases afterBlanks? named.2 with
        | none => rfl
        | some spaced =>
            simp only [Option.map_some, Option.bind_some]
            cases takeColumnType? _ <;> rfl
  rw [hread] at hheader ⊢
  obtain ⟨named, hnamed, hheader⟩ := Option.bind_eq_some_iff.mp hheader
  obtain ⟨spaced, hspaced, hheader⟩ := Option.bind_eq_some_iff.mp hheader
  obtain ⟨typed, htyped, hsame⟩ := Option.map_eq_some_iff.mp hheader
  obtain ⟨rfl, rfl⟩ := Prod.mk.inj hsame
  rw [hnamed, Option.bind_some, hspaced, Option.bind_some]
  cases takeColumnType?_reach spaced back with
  | nowhere hnone =>
      rw [hnone text isQuotable] at htyped
      cases htyped
  | before hfront htaken =>
      rw [htaken text isQuotable] at htyped
      obtain ⟨rfl, hrest⟩ := Prod.mk.inj (Option.some.inj htyped)
      rw [htaken other isQuotable', List.append_cancel_right hrest]
      rfl
  | behind htaken =>
      obtain ⟨taken, rest, hrest, htaken⟩ := htaken text isQuotable
      rw [htaken] at htyped
      cases htyped
      have hlength := hrest.length_le
      simp [quoted] at hlength
      omega

end ColumnDefinition

end MockSql
