/-
# The shapes of fixed phrases

Listing, creating, dropping and choosing databases, listing, dropping, emptying and renaming tables:
such a statement is written as keywords and names with white space between them. A text is read as
one of these statements exactly when, apart from white space around it and one semicolon behind it,
it writes the statement.
-/

import MockSql.Proofs.Dispatch

namespace MockSql

open MockSql.Text

/-- A part of a written statement. -/
inductive Part where
  | keyword (word : String)
  | name (name : String)
deriving DecidableEq, Repr

namespace Part

/-- The ways of writing a part. -/
def Writes : Part → List Char → Prop
  | keyword word, text => Spells word.toList text
  | name word, text => WritesName word text

/-- Keywords are words of letters. -/
def Proper : Part → Prop
  | keyword word => IsKeyword word
  | name _ => True

end Part

/-- The ways of writing parts one after the other: with white space between them. -/
inductive Written : List Part → List Char → Prop
  | last {part : Part} {text : List Char} (writes : part.Writes text) : Written [part] text
  | next {part : Part} {parts : List Part} {first gap rest : List Char}
      (writes : part.Writes first) (isGap : IsGap gap) (later : Written parts rest) :
      Written (part :: parts) (first ++ gap ++ rest)

/-- A phrase as parts. -/
def keywords (words : List String) : List Part :=
  words.map .keyword

/-- The parts that a statement of a fixed shape is written as. -/
def Statement.parts? : Statement → Option (List Part)
  | showDatabases => some (keywords ["show", "databases"])
  | createDatabase name => some (keywords ["create", "database"] ++ [.name name])
  | dropDatabase name => some (keywords ["drop", "database"] ++ [.name name])
  | use name => some (keywords ["use"] ++ [.name name])
  | showTables => some (keywords ["show", "tables"])
  | dropTable name => some (keywords ["drop", "table"] ++ [.name name])
  | truncateTable name => some (keywords ["truncate", "table"] ++ [.name name])
  | renameTable old new =>
    some (keywords ["rename", "table"] ++ [.name old] ++ (keywords ["to"] ++ [.name new]))
  | _ => none

/-- A text around a core: white space before it and behind it, and behind it perhaps one semicolon
between the white space. -/
def Surrounds (text core : List Char) : Prop :=
  ∃ before after, (∀ c ∈ before, isBlank c = true) ∧
    ((∀ c ∈ after, isBlank c = true) ∨
      ∃ inner outer, (∀ c ∈ inner ++ outer, isBlank c = true) ∧ after = inner ++ ';' :: outer) ∧
    text = before ++ core ++ after

/-- Neither white space nor a semicolon. -/
def isSolid (c : Char) : Bool :=
  !isBlank c && c != ';'

theorem not_isBlank_of_isSolid {c : Char} (hsolid : isSolid c = true) : isBlank c = false := by
  simpa using (Bool.and_eq_true_iff.mp hsolid).1

theorem isSolid_of_isWord {c : Char} (hword : isWord c = true) : isSolid c = true := by
  have hne : c ≠ ';' := ne_of_isWord hword (by decide)
  simp [isSolid, not_isBlank_of_isWord hword, hne]

/-- White space does not belong to a name. -/
theorem not_word_of_isBlank {c : Char} (hblank : isBlank c = true) :
    isWord c = false ∧ c ≠ nameMark := by
  constructor
  · cases hword : isWord c with
    | false => rfl
    | true => exact absurd hblank (by simp [not_isBlank_of_isWord hword])
  · rintro rfl
    exact absurd hblank (by decide)

theorem isGap_space : IsGap [' '] :=
  ⟨List.cons_ne_nil _ _, by decide +kernel⟩

theorem IsGap.not_isWord {gap : List Char} (isGap : IsGap gap) : ∀ c ∈ gap, isWord c = false :=
  fun c hc => (not_word_of_isBlank (isGap.2 c hc)).1

theorem IsGap.not_word_of_mem_head? {gap : List Char} (isGap : IsGap gap) (rest : List Char) :
    ∀ c ∈ (gap ++ rest).head?, isWord c = false ∧ c ≠ nameMark := by
  obtain ⟨d, later, rfl⟩ := List.exists_cons_of_ne_nil isGap.1
  rintro c ⟨⟩
  exact not_word_of_isBlank (isGap.2 d List.mem_cons_self)

theorem Spells.isWord {word text : List Char} (hword : ∀ letter ∈ word, letter ∈ alphabet)
    (spells : Spells word text) : ∀ c ∈ text, isWord c = true := by
  induction spells with
  | nil => simp
  | cons hletter later ih =>
      intro c hc
      rcases List.mem_cons.mp hc with rfl | hc
      · exact isWord_of_isLetter (hword _ List.mem_cons_self) hletter
      · exact ih (fun other hother => hword other (List.mem_cons_of_mem _ hother)) c hc

theorem WritesName.isSolid {name : String} {text : List Char} (writes : WritesName name text) :
    ∀ c ∈ text, isSolid c = true := by
  have hmark : MockSql.isSolid nameMark = true := by decide +kernel
  obtain ⟨isName, opening, hopening, closing, hclosing, rfl⟩ := writes
  simp only [List.mem_cons, List.not_mem_nil, or_false] at hopening hclosing
  intro c hc
  simp only [List.mem_append] at hc
  rcases hc with (hc | hc) | hc
  · rcases hopening with rfl | rfl
    · cases hc
    · exact List.mem_singleton.mp hc ▸ hmark
  · exact isSolid_of_isWord (isName.isWord_of_mem hc)
  · rcases hclosing with rfl | rfl
    · cases hc
    · exact List.mem_singleton.mp hc ▸ hmark

namespace Part

variable {part : Part} {text : List Char}

theorem Writes.isSolid (proper : part.Proper) (writes : part.Writes text) :
    ∀ c ∈ text, isSolid c = true := by
  cases part with
  | keyword word => exact fun c hc => isSolid_of_isWord (Spells.isWord proper.2 writes c hc)
  | name word => exact WritesName.isSolid writes

theorem Writes.ne_nil (proper : part.Proper) (writes : part.Writes text) : text ≠ [] := by
  rintro rfl
  cases part with
  | keyword word =>
      have hlength : word.toList.length = 0 := List.Forall₂.length_eq writes
      exact proper.1 (List.eq_nil_of_length_eq_zero hlength)
  | name word =>
      obtain ⟨isName, opening, -, closing, -, hempty⟩ := writes
      exact isName.1 (List.append_eq_nil_iff.mp (List.append_eq_nil_iff.mp hempty.symm).1).2

end Part

namespace Written

variable {parts others : List Part} {text rest gap : List Char}

/-- A written statement begins with a solid character. -/
theorem head (proper : ∀ part ∈ parts, part.Proper) (written : Written parts text) :
    ∃ c later, text = c :: later ∧ isSolid c = true := by
  have hpart : ∀ {part : Part} {first : List Char} (rest : List Char), part.Proper →
      part.Writes first → ∃ c later, first ++ rest = c :: later ∧ isSolid c = true := by
    intro part first rest proper writes
    obtain ⟨c, later, rfl⟩ := List.exists_cons_of_ne_nil (writes.ne_nil proper)
    exact ⟨c, later ++ rest, rfl, writes.isSolid proper c List.mem_cons_self⟩
  cases written with
  | last writes => simpa using hpart [] (proper _ List.mem_cons_self) writes
  | next writes isGap later =>
      rw [List.append_assoc]
      exact hpart _ (proper _ List.mem_cons_self) writes

/-- And it ends with one. -/
theorem getLast? (proper : ∀ part ∈ parts, part.Proper) (written : Written parts text) :
    ∃ c, text.getLast? = some c ∧ isSolid c = true := by
  induction written with
  | @last part text writes =>
      have hproper := proper part List.mem_cons_self
      have hne := writes.ne_nil hproper
      exact ⟨text.getLast hne, List.getLast?_eq_some_getLast hne,
        writes.isSolid hproper _ (List.getLast_mem hne)⟩
  | next writes isGap later ih =>
      obtain ⟨c, hlast, hsolid⟩ :=
        ih fun other hother => proper other (List.mem_cons_of_mem _ hother)
      exact ⟨c, getLast?_append_of_eq_some _ hlast, hsolid⟩

theorem not_isBlank_of_mem_head? (proper : ∀ part ∈ parts, part.Proper)
    (written : Written parts text) : ∀ c ∈ text.head?, isBlank c = false := by
  obtain ⟨c, later, rfl, hsolid⟩ := written.head proper
  rintro d ⟨⟩
  exact not_isBlank_of_isSolid hsolid

theorem not_isBlank_of_mem_head?_append (proper : ∀ part ∈ parts, part.Proper)
    (written : Written parts text) (rest : List Char) :
    ∀ c ∈ (text ++ rest).head?, isBlank c = false := by
  obtain ⟨c, later, rfl, hsolid⟩ := written.head proper
  rintro d ⟨⟩
  exact not_isBlank_of_isSolid hsolid

/-- What is written as more parts is written as the first and then as the others. -/
theorem append (written : Written parts text) (isGap : IsGap gap) (later : Written others rest) :
    Written (parts ++ others) (text ++ gap ++ rest) := by
  induction written with
  | last writes => exact .next writes isGap later
  | next writes hgap middle ih =>
      have hall := Written.next writes hgap ih
      simpa only [List.cons_append, List.append_assoc] using hall

theorem split (hparts : parts ≠ []) (written : Written (parts ++ others) text)
    (hothers : others ≠ []) : ∃ front gap back, text = front ++ gap ++ back ∧ IsGap gap ∧
      Written parts front ∧ Written others back := by
  induction parts generalizing text with
  | nil => exact absurd rfl hparts
  | cons part parts ih =>
      cases parts with
      | nil =>
          cases written with
          | last writes => exact absurd rfl hothers
          | next writes isGap later => exact ⟨_, _, _, rfl, isGap, .last writes, later⟩
      | cons next parts =>
          cases written with
          | next writes isGap later =>
              obtain ⟨front, gap, back, rfl, hgap, hfront, hback⟩ := ih (List.cons_ne_nil _ _) later
              exact ⟨_, gap, back, by simp only [List.append_assoc], hgap,
                .next writes isGap hfront, hback⟩

end Written

/-! ## Phrases are recognised as they are written -/

theorem keywords_proper {words : List String} (areKeywords : ∀ word ∈ words, IsKeyword word) :
    ∀ part ∈ keywords words, part.Proper := by
  intro part hpart
  obtain ⟨word, hword, rfl⟩ := List.mem_map.mp hpart
  exact areKeywords word hword

namespace Text

variable {words : List String} {text rest : List Char}

theorem afterPhrase?_eq_some (hwords : words ≠ []) (h : afterPhrase? words text = some rest) :
    ∃ front, Written (keywords words) front ∧ text = front ++ rest := by
  induction words generalizing text with
  | nil => exact absurd rfl hwords
  | cons word words ih =>
      cases words with
      | nil =>
          obtain ⟨spelled, rfl, spells⟩ := afterKeyword?_eq_some_iff.mp h
          exact ⟨spelled, .last spells, rfl⟩
      | cons next words =>
          simp only [afterPhrase?, Option.bind_eq_some_iff] at h
          obtain ⟨spaced, ⟨after, hafter, hblanks⟩, hlater⟩ := h
          obtain ⟨spelled, rfl, spells⟩ := afterKeyword?_eq_some_iff.mp hafter
          obtain ⟨gap, isGap, rfl⟩ := afterBlanks?_eq_some hblanks
          obtain ⟨front, written, rfl⟩ := ih (List.cons_ne_nil _ _) hlater
          exact ⟨spelled ++ gap ++ front, .next spells isGap written,
            by simp only [List.append_assoc]⟩

theorem afterPhrase?_append (areKeywords : ∀ word ∈ words, IsKeyword word)
    (written : Written (keywords words) text) (rest : List Char) :
    afterPhrase? words (text ++ rest) = some rest := by
  induction words generalizing text with
  | nil => cases written
  | cons word words ih =>
      cases words with
      | nil =>
          cases written with
          | last spells => exact afterKeyword?_eq_some_iff.mpr ⟨text, rfl, spells⟩
          | next spells isGap later => cases later
      | cons next words =>
          cases written with
          | @next _ _ first gap later spells isGap written =>
              have hlater : ∀ word ∈ next :: words, IsKeyword word :=
                fun other hother => areKeywords other (List.mem_cons_of_mem _ hother)
              have hword : afterKeyword? word.toList (first ++ (gap ++ (later ++ rest))) =
                  some (gap ++ (later ++ rest)) :=
                afterKeyword?_eq_some_iff.mpr ⟨first, rfl, spells⟩
              have hblanks : afterBlanks? (gap ++ (later ++ rest)) = some (later ++ rest) :=
                afterBlanks?_append isGap
                  (written.not_isBlank_of_mem_head?_append (keywords_proper hlater) rest)
              rw [List.append_assoc, List.append_assoc, afterPhrase?, hword, Option.bind_some,
                hblanks, Option.bind_some]
              exact ih hlater written

/-- A phrase and a name behind it are taken as they are written. -/
theorem afterPhrase?_takeSpacedName?_eq_some {name : String} (hwords : words ≠ [])
    (h : (afterPhrase? words text).bind takeSpacedName? = some (name, rest)) :
    ∃ front, Written (keywords words ++ [.name name]) front ∧ text = front ++ rest := by
  obtain ⟨after, hafter, hname⟩ := Option.bind_eq_some_iff.mp h
  obtain ⟨spaced, hspaced, htaken⟩ := Option.bind_eq_some_iff.mp hname
  obtain ⟨front, written, rfl⟩ := afterPhrase?_eq_some hwords hafter
  obtain ⟨gap, isGap, rfl⟩ := afterBlanks?_eq_some hspaced
  obtain ⟨named, writes, rfl⟩ := takeName?_eq_some htaken
  exact ⟨front ++ gap ++ named, written.append isGap (.last writes),
    by simp only [List.append_assoc]⟩

/-- A phrase and a name behind which nothing is left. -/
theorem written_of_nothing_left {name : String} (hwords : words ≠ [])
    (h : (afterPhrase? words text).bind takeSpacedName? = some (name, [])) :
    Written (keywords words ++ [.name name]) text := by
  obtain ⟨front, written, rfl⟩ := afterPhrase?_takeSpacedName?_eq_some hwords h
  simpa using written

theorem afterPhrase?_takeSpacedName?_append {name : String}
    (areKeywords : ∀ word ∈ words, IsKeyword word) (hwords : words ≠ [])
    (written : Written (keywords words ++ [.name name]) text)
    (hrest : ∀ c ∈ rest.head?, isWord c = false ∧ c ≠ nameMark) :
    (afterPhrase? words (text ++ rest)).bind takeSpacedName? = some (name, rest) := by
  obtain ⟨front, gap, back, rfl, isGap, hfront, hback⟩ :=
    written.split (by simpa [keywords] using hwords) (List.cons_ne_nil _ _)
  cases hback with
  | next writes isGap later => cases later
  | last writes =>
      have hblank : ∀ c ∈ (back ++ rest).head?, isBlank c = false :=
        (Written.last writes).not_isBlank_of_mem_head?_append (by simp [Part.Proper]) rest
      simp only [List.append_assoc]
      rw [afterPhrase?_append areKeywords hfront, Option.bind_some, takeSpacedName?,
        afterBlanks?_append isGap hblank, Option.bind_some]
      exact takeName?_append writes hrest

end Text

/-! ## Fixed shapes accept what is written -/

namespace Shape

variable {words : List String} {text : List Char}

theorem atEnd?_eq_some {done : Unit} (h : atEnd? text = some done) : text = [] := by
  simpa [atEnd?] using h

theorem phrase_iff_written {statement : Statement} (areKeywords : ∀ word ∈ words, IsKeyword word)
    (hwords : words ≠ []) : phrase words statement text = some (.statement statement) ↔
      Written (keywords words) text := by
  constructor
  · intro h
    obtain ⟨done, hdone, -⟩ := Option.map_eq_some_iff.mp h
    obtain ⟨rest, hrest, hend⟩ := Option.bind_eq_some_iff.mp hdone
    obtain ⟨front, written, rfl⟩ := afterPhrase?_eq_some hwords hrest
    cases atEnd?_eq_some hend
    simpa using written
  · intro written
    have htaken := afterPhrase?_append areKeywords written []
    rw [List.append_nil] at htaken
    rw [phrase, htaken]
    rfl

theorem phraseAndName_iff_written {build : String → Statement} {name : String}
    (areKeywords : ∀ word ∈ words, IsKeyword word) (hwords : words ≠ [])
    (injective : ∀ other, build other = build name → other = name) :
    phraseAndName words build text = some (.statement (build name)) ↔
      Written (keywords words ++ [.name name]) text := by
  constructor
  · intro h
    simp only [phraseAndName, Option.bind_eq_bind, Option.bind_eq_some_iff] at h
    obtain ⟨⟨other, rest⟩, hname, done, hend, heq⟩ := h
    obtain ⟨front, written, rfl⟩ :=
      afterPhrase?_takeSpacedName?_eq_some hwords (Option.bind_eq_some_iff.mpr hname)
    cases atEnd?_eq_some hend
    have hother : other = name := injective other (by simpa using heq)
    simpa [hother] using written
  · intro written
    have htaken : (afterPhrase? words (text ++ [])).bind takeSpacedName? = some (name, []) :=
      afterPhrase?_takeSpacedName?_append areKeywords hwords written (by simp)
    rw [List.append_nil] at htaken
    simp only [phraseAndName, htaken, Option.bind_eq_bind, Option.bind_some]
    rfl

theorem renameTable_iff_written {old new : String} :
    renameTable text = some (.statement (.renameTable old new)) ↔
      Written (keywords ["rename", "table"] ++ [.name old] ++ (keywords ["to"] ++ [.name new]))
        text := by
  have areKeywords : (∀ word ∈ ["rename", "table"], IsKeyword word) ∧
      ∀ word ∈ ["to"], IsKeyword word := by decide
  have hwords : ["rename", "table"] ≠ [] ∧ ["to"] ≠ [] := by decide
  constructor
  · intro h
    simp only [renameTable, Option.bind_eq_bind, Option.bind_eq_some_iff] at h
    obtain ⟨⟨old, rest⟩, hold, ⟨new, later⟩, ⟨after, ⟨spaced, hspaced, hto⟩, hnew⟩, done, hend,
      heq⟩ := h
    obtain ⟨front, hfront, rfl⟩ :=
      afterPhrase?_takeSpacedName?_eq_some hwords.1 (Option.bind_eq_some_iff.mpr hold)
    obtain ⟨gap, isGap, rfl⟩ := afterBlanks?_eq_some hspaced
    obtain ⟨back, hback, rfl⟩ :=
      afterPhrase?_takeSpacedName?_eq_some hwords.2 (Option.bind_eq_some_iff.mpr ⟨after, hto, hnew⟩)
    cases atEnd?_eq_some hend
    cases heq
    simpa using hfront.append isGap hback
  · intro written
    obtain ⟨front, gap, back, rfl, isGap, hfront, hback⟩ :=
      written.split (by simp) (by simp [keywords])
    have hto : ∀ part ∈ keywords ["to"] ++ [.name new], part.Proper := by
      simp only [List.forall_mem_append, List.forall_mem_singleton]
      exact ⟨keywords_proper areKeywords.2, trivial⟩
    have hblank : afterBlanks? (gap ++ back) = some back :=
      afterBlanks?_append isGap (hback.not_isBlank_of_mem_head? hto)
    have hbehind := isGap.not_word_of_mem_head? back
    have hold := afterPhrase?_takeSpacedName?_append areKeywords.1 hwords.1 hfront hbehind
    have hnew : (afterPhrase? ["to"] (back ++ [])).bind takeSpacedName? = some (new, []) :=
      afterPhrase?_takeSpacedName?_append areKeywords.2 hwords.2 hback (by simp)
    rw [List.append_nil] at hnew
    simp only [renameTable, List.append_assoc, hold, hblank, hnew, Option.bind_eq_bind,
      Option.bind_some]
    rfl

end Shape

namespace Statement

variable {text core : List Char}

/-- A text with nothing around it. -/
theorem surrounds_self (htext : text = core) : Surrounds text core :=
  ⟨[], [], by simp, .inl (by simp), by simpa using htext⟩

/-- What is stripped off a text surrounds what is left. -/
theorem surrounds_strip (text : List Char) : Surrounds text (strip text) := by
  obtain ⟨before, after, houter, htext⟩ := exists_stripWhile isBlank text
  have hbefore : ∀ c ∈ before, isBlank c = true := fun c hc => houter c (List.mem_append_left _ hc)
  have hafter : ∀ c ∈ after, isBlank c = true := fun c hc => houter c (List.mem_append_right _ hc)
  rw [← trim] at htext
  unfold strip
  simp only [beq_iff_eq]
  split
  next hlast =>
    obtain ⟨inner, hinner⟩ := List.getLast?_eq_some_iff.mp hlast
    have hkept : inner.rdropWhile isBlank ++ inner.rtakeWhile isBlank = inner :=
      List.rdropWhile_append_rtakeWhile
    have hblanks : ∀ c ∈ inner.rtakeWhile isBlank, isBlank c = true :=
      fun c hc => List.mem_rtakeWhile_imp hc
    generalize inner.rtakeWhile isBlank = blanks at hkept hblanks
    rw [hinner] at htext
    rw [hinner, List.dropLast_concat, trimEnd, dropWhileEnd_eq_rdropWhile]
    refine ⟨before, blanks ++ ';' :: after, hbefore, .inr ⟨blanks, after, ?_, rfl⟩, ?_⟩
    · intro c hc
      exact (List.mem_append.mp hc).elim (hblanks c) (hafter c)
    · calc text = before ++ (inner ++ [';']) ++ after := htext
        _ = before ++ (inner.rdropWhile isBlank ++ blanks ++ [';']) ++ after := by rw [hkept]
        _ = before ++ inner.rdropWhile isBlank ++ (blanks ++ ';' :: after) := by
          simp only [List.append_assoc, List.cons_append, List.nil_append]
  next => exact ⟨before, after, hbefore, .inl hafter, htext⟩

/-- A core with solid ends is what is left of a text around it. -/
theorem strip_eq_of_surrounds (hfirst : ∃ c later, core = c :: later ∧ isSolid c = true)
    (hlast : ∃ c, core.getLast? = some c ∧ isSolid c = true) (surrounds : Surrounds text core) :
    strip text = core := by
  obtain ⟨first, later, hcore, hfirst⟩ := hfirst
  obtain ⟨last, hend, hlast⟩ := hlast
  obtain ⟨before, after, hbefore, hafter, rfl⟩ := surrounds
  have hcoreFirst : ∀ c ∈ core.head?, isBlank c = false := by
    rw [hcore]
    rintro c ⟨⟩
    exact not_isBlank_of_isSolid hfirst
  have hcoreLast : ∀ c ∈ core.getLast?, isBlank c = false ∧ c ≠ ';' := by
    rw [hend]
    rintro c ⟨⟩
    exact ⟨not_isBlank_of_isSolid hlast, by rintro rfl; cases hlast⟩
  rcases hafter with hafter | ⟨inner, outer, hblanks, rfl⟩
  · have htrim : trim (before ++ core ++ after) = trim core := by
      rw [List.append_assoc, trim, stripWhile_append hbefore, stripWhile_append_outer hafter, trim]
    calc strip (before ++ core ++ after) = strip core := by simp only [strip, htrim]
      _ = core := strip_eq_self hcoreFirst hcoreLast
  · have hinner : ∀ c ∈ inner, isBlank c = true :=
      fun c hc => hblanks c (List.mem_append_left _ hc)
    have houter : ∀ c ∈ outer, isBlank c = true :=
      fun c hc => hblanks c (List.mem_append_right _ hc)
    have htrim : trim (before ++ core ++ (inner ++ ';' :: outer)) = core ++ inner ++ [';'] := by
      have hsplit : before ++ core ++ (inner ++ ';' :: outer) =
          before ++ ((core ++ inner ++ [';']) ++ outer) := by simp
      rw [hsplit, trim, stripWhile_append hbefore, stripWhile_append_outer houter]
      apply stripWhile_eq_self
      · simpa [hcore] using hcoreFirst
      · simp only [List.getLast?_concat]
        rintro c ⟨⟩
        decide
    have htrimEnd : trimEnd (core ++ inner) = core := by
      rw [trimEnd, dropWhileEnd_append_outer hinner]
      exact rdropWhile_eq_self fun c hc => (hcoreLast c hc).1
    simp only [strip, htrim, List.getLast?_concat, List.dropLast_concat, htrimEnd, beq_self_eq_true,
      if_true]

variable {statement : Statement} {parts : List Part}

theorem parts_proper (fixed : statement.parts? = some parts) : ∀ part ∈ parts, part.Proper := by
  have hname : ∀ {words : List String} (name : String), (∀ word ∈ words, IsKeyword word) →
      ∀ part ∈ keywords words ++ [.name name], part.Proper := by
    intro words name areKeywords
    simp only [List.forall_mem_append, List.forall_mem_singleton]
    exact ⟨keywords_proper areKeywords, trivial⟩
  cases statement with
  | showDatabases | showTables =>
      cases fixed
      exact keywords_proper (by decide)
  | createDatabase | dropDatabase | use | dropTable | truncateTable =>
      cases fixed
      exact hname _ (by decide)
  | renameTable old new =>
      cases fixed
      exact List.forall_mem_append.mpr ⟨hname old (by decide), hname new (by decide)⟩
  | createTable | alterTable | select | insert | update | delete => cases fixed

/-- A shape of fixed phrases makes a statement of the texts that write it, and of no others. -/
theorem shape_iff_written (fixed : statement.parts? = some parts) :
    statement.shape text = some (.statement statement) ↔ Written parts text := by
  cases statement with
  | showDatabases | showTables =>
      cases fixed
      exact Shape.phrase_iff_written (by decide) (by decide)
  | createDatabase | dropDatabase | use | dropTable | truncateTable =>
      cases fixed
      exact Shape.phraseAndName_iff_written (by decide) (by decide) (by simp)
  | renameTable =>
      cases fixed
      exact Shape.renameTable_iff_written
  | createTable | alterTable | select | insert | update | delete => cases fixed

/-- A text is one of the fixed statements exactly when it writes the statement, with white space
around it and perhaps one semicolon behind it. -/
theorem read_fixed_iff_written (fixed : statement.parts? = some parts) (query : String) :
    read query = .ok statement ↔ ∃ core, Surrounds query.toList core ∧ Written parts core := by
  rw [read_eq_ok_iff, shape_iff_written fixed]
  constructor
  · exact fun written => ⟨strip query.toList, surrounds_strip query.toList, written⟩
  · rintro ⟨core, surrounds, written⟩
    have proper := parts_proper fixed
    rwa [strip_eq_of_surrounds (written.head proper) (written.getLast? proper) surrounds]

/-- Keywords in either case, a mark on one side of each name, tabs and line breaks for white space,
and a semicolon behind. -/
theorem read_fixed_iff_written_of_renaming :
    let query := "\n rename\tTABLE  `Users\nTo Kunden` ;\n"
    (renameTable "Users" "Kunden").parts? = some [.keyword "rename", .keyword "table",
        .name "Users", .keyword "to", .name "Kunden"] ∧
      read query = .ok (.renameTable "Users" "Kunden") ∧
      ∃ core, Surrounds query.toList core ∧ Written [.keyword "rename", .keyword "table",
        .name "Users", .keyword "to", .name "Kunden"] core := by
  intro query
  have hread : read query = .ok (.renameTable "Users" "Kunden") := by decide +kernel
  exact ⟨rfl, hread, (read_fixed_iff_written rfl query).mp hread⟩

end Statement

end MockSql
