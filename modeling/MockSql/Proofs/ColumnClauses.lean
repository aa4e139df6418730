/-
# Clauses of a column

The clauses of a column are looked for one by one, each anywhere behind its type. None reaches over a
quote, so what is found is found before the quote or behind it; only a default takes what stands
between two quotes.
-/

import MockSql.ColumnDefinition.Reader
import MockSql.Proofs.FixedShapes
import MockSql.Proofs.Recognisers
import MockSql.Proofs.Stops

namespace MockSql

open MockSql.Text

namespace ColumnDefinition

variable {stop : Char} {text rest : List Char}

/-- A search finds nothing if nothing is recognised anywhere. -/
theorem findFrom?_eq_none {α : Type} {recognise : List Char → Option α}
    (hnone : ∀ later, later <:+ text → recognise later = none) (afterWord : Bool) :
    findFrom? recognise afterWord text = none := by
  induction text generalizing afterWord with
  | nil => simp [findFrom?, hnone [] List.suffix_rfl]
  | cons c text ih =>
      have hlater := ih fun later hlater => hnone later (hlater.trans (List.suffix_cons c text))
      simp [findFrom?, hnone _ List.suffix_rfl, hlater]

theorem findAnywhere?_eq_none {α : Type} {recognise : List Char → Option α}
    (hnone : ∀ later, later <:+ text → recognise later = none) :
    findAnywhere? recognise text = none := by
  induction text with
  | nil => exact hnone [] List.suffix_rfl
  | cons c text ih =>
      have hlater := ih fun later hlater => hnone later (hlater.trans (List.suffix_cons c text))
      rw [findAnywhere?, hnone _ List.suffix_rfl, hlater, Option.none_or]

/-- A search goes on behind what nothing begins in. -/
theorem findAnywhere?_append_cons {α : Type} {recognise : List Char → Option α} {c : Char}
    {front rest : List Char}
    (hnone : ∀ later, later <:+ front → recognise (later ++ c :: rest) = none) :
    findAnywhere? recognise (front ++ c :: rest) = findAnywhere? recognise rest := by
  induction front with
  | nil =>
      have hhere := hnone [] List.suffix_rfl
      rw [List.nil_append] at hhere ⊢
      rw [findAnywhere?, hhere, Option.none_or]
  | cons d front ih =>
      have hhere := hnone _ List.suffix_rfl
      rw [List.cons_append] at hhere ⊢
      rw [findAnywhere?, hhere, Option.none_or,
        ih fun later hlater => hnone later (hlater.trans (List.suffix_cons d front))]

theorem findAnywhere?_map {α β : Type} (recognise : List Char → Option α) (convert : α → β)
    (text : List Char) : findAnywhere? (fun text => (recognise text).map convert) text =
      (findAnywhere? recognise text).map convert := by
  induction text with
  | nil => rfl
  | cons c text ih => rw [findAnywhere?, findAnywhere?, ih, Option.map_or]

/-- A text between single quotes, with what stands behind it. -/
def quoted (text back : List Char) : List Char :=
  '\x27' :: (text ++ '\x27' :: back)

theorem quoted_eq_append (text back : List Char) : quoted text back = quoted text [] ++ back := by
  simp [quoted]

theorem isStop_quote : IsStop '\x27' :=
  ⟨by decide, by decide, by decide⟩

/-- A phrase stands before a quoted text, in it or behind it. -/
theorem hasPhrase_quoted {word : String} {words : List String} {front back : List Char}
    (areKeywords : ∀ other ∈ word :: words, IsPhraseWord other) :
    hasPhrase (word :: words) (front ++ quoted text back) =
      (hasPhrase (word :: words) front ||
        (hasPhrase (word :: words) text || hasPhrase (word :: words) back)) := by
  rw [quoted, hasPhrase_stop isStop_quote _ areKeywords, hasPhrase_stop isStop_quote _ areKeywords]

theorem afterWhole?_stop {words : List String} (isStop : IsStop stop)
    (areKeywords : ∀ word ∈ words, IsPhraseWord word) :
    afterWhole? words (text ++ stop :: rest) =
      (afterWhole? words text).map (· ++ stop :: rest) := by
  rw [afterWhole?, afterWhole?, afterPhrase?_stop isStop rest areKeywords]
  cases afterPhrase? words text with
  | none => rfl
  | some after =>
      simp only [Option.map_some, Option.filter_some, startsWithWord_stop isStop]
      split <;> rfl

/-- Whether a fragment is a table-level clause shows before any stop. -/
theorem isTableClause_stop (isStop : IsStop stop) (hne : stop ≠ '(') :
    isTableClause (text ++ stop :: rest) = isTableClause text := by
  have hopening : ((afterPhrase? ["unique"] (text ++ stop :: rest)).bind
      fun rest => afterChar? '(' (trimStart rest)).isSome =
      ((afterPhrase? ["unique"] text).bind fun rest => afterChar? '(' (trimStart rest)).isSome := by
    rw [afterPhrase?_stop isStop rest (by decide)]
    cases afterPhrase? ["unique"] text with
    | none => rfl
    | some after =>
        simp only [Option.map_some, Option.bind_some, trimStart_stop isStop,
          afterChar?_stop rest hne, Option.isSome_map]
  rw [isTableClause, isTableClause, hopening, afterPhrase?_stop isStop rest (by decide),
    afterPhrase?_stop isStop rest (by decide), afterWhole?_stop isStop (by decide),
    afterWhole?_stop isStop (by decide), afterWhole?_stop isStop (by decide),
    afterWhole?_stop isStop (by decide), afterWhole?_stop isStop (by decide)]
  simp only [Option.isSome_map]

/-- The reference that a text begins with. -/
def referenceAt? (text : List Char) : Option Reference := do
  let (table, afterTable) ← (afterPhrase? ["references"] text).bind takeSpacedName?
  let inside ← afterChar? '(' (trimStart afterTable)
  let (column, _) ← takeName? (trimStart inside)
  some ⟨table, column⟩

theorem reference?_eq (clause : List Char) : reference? clause = findWord? referenceAt? clause :=
  rfl

/-- A reference stands before a stop or behind it. -/
theorem reference?_stop (isStop : IsStop stop) (hne : stop ≠ '(') :
    reference? (text ++ stop :: rest) = (reference? text).or (reference? rest) := by
  have stops : ∀ text, referenceAt? (text ++ stop :: rest) = (referenceAt? text).map id := by
    intro text
    simp only [referenceAt?, Option.bind_eq_bind, Option.map_id_fun, id_eq,
      afterPhrase?_stop isStop rest (show ∀ word ∈ ["references"], IsPhraseWord word by decide)]
    cases afterPhrase? ["references"] text with
    | none => rfl
    | some after =>
        simp only [Option.map_some, Option.bind_some, takeSpacedName?_stop isStop]
        cases takeSpacedName? after with
        | none => rfl
        | some found =>
            simp only [Option.map_some, Option.bind_some, Prod.map_fst, Prod.map_snd, id_eq,
              trimStart_stop isStop, afterChar?_stop rest hne]
            cases afterChar? '(' (trimStart found.2) with
            | none => rfl
            | some inside =>
                simp only [Option.map_some, Option.bind_some, trimStart_stop isStop,
                  takeName?_stop isStop]
                cases takeName? (trimStart inside) <;> rfl
  have hfound : findFrom? referenceAt? false (text ++ stop :: rest) = _ :=
    findFrom?_stop isStop rest stops rfl false
  simpa only [reference?_eq, findWord?, Option.map_id_fun, id_eq] using hfound

/-- There is no reference without a parenthesis. -/
theorem reference?_eq_none (hfree : '(' ∉ text) : reference? text = none := by
  refine findFrom?_eq_none (fun later hlater => ?_) false
  rw [Option.eq_none_iff_forall_ne_some]
  intro reference h
  simp only [Option.bind_eq_bind, Option.bind_eq_some_iff] at h
  obtain ⟨⟨table, after⟩, ⟨named, hkeyword, hname⟩, inside, hinside, -⟩ := h
  have hsuffix : trimStart after <:+ later :=
    (List.dropWhile_suffix isBlank).trans
      ((takeSpacedName?_suffix hname).trans (afterKeyword?_suffix hkeyword))
  rw [afterChar?_eq_some hinside] at hsuffix
  exact hfree (hlater.subset (hsuffix.subset List.mem_cons_self))

/-- The bracket of a primary key that a text begins with, and what follows it. -/
def primaryClause? (text : List Char) : Option (List Char × List Char) :=
  (afterPhrase? ["primary", "key"] text).bind (takeBracketed? ∘ trimStart)

/-- The name that the bracket of a primary key begins with. -/
def leadingName? (inside : List Char) : Option String :=
  match (inside.splitOn ',').map bareName with
  | [] | [] :: _ => none
  | name :: _ => some (String.ofList name)

theorem primaryName?_eq (body : List Char) : primaryName? body =
    (findAnywhere? primaryClause? body).bind fun found => leadingName? found.1 :=
  rfl

/-- The first name of a bracket stands before its first comma. -/
theorem leadingName?_eq (inside : List Char) : leadingName? inside =
    if (bareName (inside.takeWhile (· != ','))).isEmpty then none
    else some (String.ofList (bareName (inside.takeWhile (· != ',')))) := by
  have hfree := not_mem_takeWhile_bne ',' inside
  have hhead : ∃ later, inside.splitOn ',' = inside.takeWhile (· != ',') :: later := by
    have hparts := @List.takeWhile_append_dropWhile _ (· != ',') inside
    cases hrest : inside.dropWhile (· != ',') with
    | nil =>
        rw [hrest, List.append_nil] at hparts
        exact ⟨[], by rw [hparts, List.splitOn_eq_singleton (hparts ▸ hfree)]⟩
    | cons c later =>
        have hc := head?_dropWhile (· != ',') inside c (by rw [hrest]; rfl)
        obtain rfl : c = ',' := by simpa using hc
        rw [hrest] at hparts
        refine ⟨later.splitOn ',', ?_⟩
        conv_lhs => rw [← hparts]
        exact List.splitOn_append_cons_self_of_not_mem hfree _
  obtain ⟨later, hsplit⟩ := hhead
  rw [leadingName?, hsplit, List.map_cons]
  cases bareName (inside.takeWhile (· != ',')) <;> rfl

/-- There is no primary key of a table without a parenthesis. -/
theorem primaryClause?_eq_none (hfree : '(' ∉ text) : primaryClause? text = none := by
  rw [Option.eq_none_iff_forall_ne_some]
  rintro ⟨inside, behind⟩ h
  obtain ⟨after, hphrase, hbracket⟩ := Option.bind_eq_some_iff.mp h
  obtain ⟨front, -, rfl⟩ := afterPhrase?_eq_some (by decide) hphrase
  obtain ⟨htrim, -⟩ := takeBracketed?_eq_some_iff.mp hbracket
  have hmem : '(' ∈ trimStart after := by rw [htrim]; exact List.mem_cons_self
  exact hfree (List.mem_append_right _ ((List.dropWhile_suffix isBlank).subset hmem))

/-- Neither is there one that reaches over a stop to a parenthesis. -/
theorem primaryClause?_stop_eq_none (isStop : IsStop stop) (hne : stop ≠ '(') (hfree : '(' ∉ text) :
    primaryClause? (text ++ stop :: rest) = none := by
  rw [primaryClause?, afterPhrase?_stop isStop rest (by decide), Option.bind_eq_none_iff]
  intro after hafter
  obtain ⟨before, hbefore, rfl⟩ := Option.map_eq_some_iff.mp hafter
  obtain ⟨front, -, rfl⟩ := afterPhrase?_eq_some (by decide) hbefore
  rw [Function.comp_apply, trimStart_stop isStop, Option.eq_none_iff_forall_ne_some]
  rintro ⟨inside, behind⟩ hbracket
  obtain ⟨htrim, -⟩ := takeBracketed?_eq_some_iff.mp hbracket
  cases hblanks : trimStart before with
  | nil =>
      rw [hblanks] at htrim
      exact hne (List.cons_eq_cons.mp htrim).1
  | cons c later =>
      rw [hblanks] at htrim
      obtain ⟨rfl, -⟩ := List.cons_eq_cons.mp htrim
      have hmem : '(' ∈ trimStart before := by rw [hblanks]; exact List.mem_cons_self
      exact hfree (List.mem_append_right _ ((List.dropWhile_suffix isBlank).subset hmem))

/-- What follows the keyword of a default that a text begins with. -/
def afterDefault? (text : List Char) : Option (List Char) :=
  (afterPhrase? ["default"] text).bind afterBlanks?

theorem afterDefault?_stop (isStop : IsStop stop) :
    afterDefault? (text ++ stop :: rest) = (afterDefault? text).map (· ++ stop :: rest) := by
  rw [afterDefault?, afterDefault?, afterPhrase?_stop isStop rest (by decide)]
  cases afterPhrase? ["default"] text with
  | none => rfl
  | some after => exact afterBlanks?_stop isStop rest

/-- The default that a text begins with, and whether it is quoted. -/
def defaultAt? (text : List Char) : Option (List Char × Bool) :=
  (afterDefault? text).bind takeDefault?

theorem takeDefault?_quoted (hquote : '\x27' ∉ text) :
    takeDefault? (quoted text rest) = some (text, true) := by
  have hrun := forall_bne_of_not_mem hquote
  simp only [quoted, takeDefault?, takeDefault?.afterQuote?, afterChar?, beq_self_eq_true, if_true,
    Option.bind_eq_bind, Option.bind_some, takeWhile_run hrun (bne_self_eq_false '\x27'),
    dropWhile_run hrun (bne_self_eq_false '\x27'), Option.some_or]

/-- If nothing stands behind the first keyword of a default, then what is quoted there is that default. -/
theorem findFrom?_quoted {opening : List Char} {afterWord : Bool}
    (hopening : findFrom? afterDefault? afterWord opening = some []) (hquote : '\x27' ∉ text) :
    findFrom? defaultAt? afterWord (opening ++ quoted text rest) = some (text, true) := by
  induction opening generalizing afterWord with
  | nil => cases afterWord <;> cases hopening
  | cons c opening ih =>
      have hhere : afterDefault? (c :: opening ++ quoted text rest) =
          (afterDefault? (c :: opening)).map (· ++ quoted text rest) :=
        afterDefault?_stop isStop_quote
      rw [findFrom?] at hopening
      rw [List.cons_append] at hhere ⊢
      rw [findFrom?, defaultAt?, hhere]
      cases afterWord with
      | true => simpa using ih (by simpa using hopening)
      | false =>
          cases hdefault : afterDefault? (c :: opening) with
          | none =>
              rw [hdefault] at hopening
              simpa using ih (by simpa using hopening)
          | some behind =>
              rw [hdefault] at hopening
              cases hopening
              simp [takeDefault?_quoted hquote]

theorem default?_eq (clauses : List Char) : default? clauses =
    match findWord? defaultAt? clauses with
    | none => none
    | some (content, isQuoted) =>
      if !isQuoted && upper content == "NULL".toList then none else some (String.ofList content) :=
  rfl

theorem default?_quoted {opening : List Char} (hopening : findWord? afterDefault? opening = some [])
    (hquote : '\x27' ∉ text) :
    default? (opening ++ quoted text rest) = some (String.ofList text) := by
  have hclause : findWord? defaultAt? (opening ++ quoted text rest) = some (text, true) :=
    findFrom?_quoted hopening hquote
  rw [default?_eq, hclause]
  rfl

/-- A quoted default is what stands between two quotes. -/
theorem takeDefault?_eq_quoted (h : takeDefault? rest = some (text, true)) :
    ∃ back, rest = quoted text back ∧ '\x27' ∉ text := by
  rw [takeDefault?, Option.or_eq_some_iff] at h
  rcases h with hquoted | ⟨-, hbare⟩
  · simp only [takeDefault?.afterQuote?, Option.bind_eq_bind, Option.bind_eq_some_iff] at hquoted
    obtain ⟨inside, hinside, back, hback, heq⟩ := hquoted
    obtain ⟨rfl, -⟩ := Prod.mk.inj (Option.some.inj heq)
    refine ⟨back, ?_, not_mem_takeWhile_bne _ _⟩
    rw [afterChar?_eq_some hinside, quoted, ← afterChar?_eq_some hback,
      List.takeWhile_append_dropWhile]
  · obtain ⟨run, -, heq⟩ := Option.map_eq_some_iff.mp hbare
    cases heq

/-- Behind the keyword of a default, anything is a default. -/
theorem takeDefault?_ne_none {c : Char} (hc : isBlank c = false) : takeDefault? (c :: rest) ≠ none := by
  rw [takeDefault?, Ne, Option.or_eq_none_iff]
  rintro ⟨-, hbare⟩
  simp [takeRun?, hc] at hbare

theorem afterDefault?_suffix (h : afterDefault? text = some rest) : rest <:+ text := by
  obtain ⟨after, hkeyword, hblanks⟩ := Option.bind_eq_some_iff.mp h
  exact (afterBlanks?_suffix hblanks).trans (afterKeyword?_suffix hkeyword)

theorem not_isBlank_of_afterDefault? (h : afterDefault? text = some rest) :
    ∀ c ∈ rest.head?, isBlank c = false := by
  obtain ⟨after, -, hblanks⟩ := Option.bind_eq_some_iff.mp h
  cases after with
  | nil => cases hblanks
  | cons c after =>
      rw [afterBlanks?] at hblanks
      split at hblanks
      next =>
        cases hblanks
        exact head?_dropWhile isBlank after
      next => cases hblanks

/-- Where a text is quoted that is a default, the keyword stands before it, and none before that. -/
theorem findFrom?_defaultAt? {clauses : List Char} {afterWord : Bool}
    (h : findFrom? defaultAt? afterWord clauses = some (text, true)) :
    ∃ opening back, clauses = opening ++ quoted text back ∧ '\x27' ∉ text ∧
      findFrom? afterDefault? afterWord opening = some [] := by
  induction clauses generalizing afterWord with
  | nil => cases afterWord <;> cases h
  | cons c clauses ih =>
      have hstop : ∀ front back, afterDefault? (front ++ quoted text back) =
          (afterDefault? front).map (· ++ quoted text back) :=
        fun front back => afterDefault?_stop isStop_quote
      rw [findFrom?, Option.or_eq_some_iff] at h
      rcases h with hhere | ⟨hhere, hlater⟩
      · cases afterWord with
        | true => cases hhere
        | false =>
            obtain ⟨after, hafter, hdefault⟩ := Option.bind_eq_some_iff.mp hhere
            obtain ⟨back, rfl, hquote⟩ := takeDefault?_eq_quoted hdefault
            obtain ⟨opening, hopening⟩ := afterDefault?_suffix hafter
            refine ⟨opening, back, hopening.symm, hquote, ?_⟩
            rw [← hopening, hstop] at hafter
            obtain ⟨left, hleft, hnothing⟩ := Option.map_eq_some_iff.mp hafter
            obtain rfl : left = [] := by simpa using hnothing
            cases opening with
            | nil => cases hleft
            | cons d opening => simp [findFrom?, hleft]
      · obtain ⟨opening, back, rfl, hquote, hopening⟩ := ih hlater
        refine ⟨c :: opening, back, rfl, hquote, ?_⟩
        have hnone : afterWord = false → afterDefault? (c :: opening) = none := by
          rintro rfl
          rw [if_neg Bool.false_ne_true, defaultAt?, ← List.cons_append, hstop] at hhere
          rw [Option.eq_none_iff_forall_ne_some]
          intro left hleft
          rw [hleft, Option.map_some, Option.bind_some] at hhere
          cases left with
          | nil => exact takeDefault?_ne_none (show isBlank '\x27' = false by decide) hhere
          | cons d left => exact takeDefault?_ne_none (not_isBlank_of_afterDefault? hleft d rfl) hhere
        rw [findFrom?, hopening]
        cases afterWord with
        | true => rfl
        | false => rw [if_neg Bool.false_ne_true, hnone rfl, Option.none_or]

theorem textBefore_append (text rest : List Char) :
    textBefore (text ++ rest) rest = String.ofList text := by
  rw [textBefore, List.length_append, Nat.add_sub_cancel, List.take_left]

/-- The name, the type and the clauses of a column definition. -/
def readHeader? (fragment : List Char) : Option (String × String × List Char) := do
  let (name, afterName) ← takeName? fragment
  let (type, clauses) ← (afterBlanks? afterName).bind takeColumnType?
  some (name, type, clauses)

/-- A name that is read has no quote. -/
theorem quote_not_mem_of_readHeader? {fragment clauses : List Char} {name type : String}
    (h : readHeader? fragment = some (name, type, clauses)) : '\x27' ∉ name.toList := by
  simp only [readHeader?, Option.bind_eq_bind, Option.bind_eq_some_iff] at h
  obtain ⟨⟨taken, after⟩, hname, typed, -, heq⟩ := h
  cases heq
  obtain ⟨⟨run, rest⟩, hrun, hsame⟩ := Option.map_eq_some_iff.mp hname
  cases hsame
  obtain ⟨-, -, hword, -⟩ := takeRun?_eq_some_iff.mp hrun
  intro hmem
  rw [String.toList_ofList] at hmem
  exact absurd (hword _ hmem) (by decide)

/-- The column of a name, a type and clauses. -/
def ofClauses (primaryName : Option String) (hasPrimary : Bool) (name type : String)
    (clauses : List Char) : ColumnDefinition :=
  let wantsPrimary := some name == primaryName || hasPhrase ["primary", "key"] clauses
  { name, type
    nullable := !hasPhrase ["not", "null"] clauses
    key :=
      if wantsPrimary && !hasPrimary then .primary
      else if hasPhrase ["unique"] clauses then .unique
      else .none
    default := default? clauses
    autoIncrement := hasPhrase ["auto_increment"] clauses
    reference := reference? clauses }

/-- A column is read from its header and its clauses. -/
theorem readColumn?_eq (primaryName : Option String) (hasPrimary : Bool) (fragment : List Char) :
    readColumn? primaryName hasPrimary fragment = (readHeader? fragment).map
      fun (name, type, clauses) => ofClauses primaryName hasPrimary name type clauses := by
  simp only [readColumn?, readHeader?, Option.bind_eq_bind]
  cases takeName? fragment with
  | none => rfl
  | some named =>
      simp only [Option.bind_some]
      cases (afterBlanks? named.2).bind takeColumnType? with
      | none => rfl
      | some typed => rfl

end ColumnDefinition

end MockSql
