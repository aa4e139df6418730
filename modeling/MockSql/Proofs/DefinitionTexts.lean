/-
# Column definitions and their text

The body of a table definition is the texts of its columns with commas between them. Read again, such a
body gives the definitions that were written, provided that no name is the keyword of a table-level
clause, that no type is called like the keyword of a key, and that no default holds a letter or
punctuation that separates.
-/

import MockSql.Proofs.Coherence
import MockSql.Proofs.ColumnTexts

namespace MockSql

open MockSql.Text MockSql.Literal

namespace ColumnDefinition

variable {definition : ColumnDefinition}

/-- A name that is not a keyword goes on behind the keyword that it begins with. -/
theorem afterKeyword?_of_not_spells {word name rest after : List Char}
    (hletters : ∀ letter ∈ word, isLetter letter ' ' = false) (hnot : ¬ Spells word name)
    (hname : ∀ c ∈ name, isWord c = true) (h : afterKeyword? word (name ++ ' ' :: rest) = some after) :
    ∃ c later, after = c :: later ∧ isWord c = true := by
  obtain ⟨later, hlater, rfl⟩ := afterKeyword?_eq_some hletters h
  cases later with
  | nil =>
      obtain ⟨spelled, htext, spells⟩ := afterKeyword?_eq_some_iff.mp h
      obtain rfl : name = spelled := List.append_cancel_right htext
      exact absurd spells hnot
  | cons c later => exact ⟨c, _, rfl, hname c (hlater.subset List.mem_cons_self)⟩

/-- The text of a definition begins with no table-level clause: behind each of the keywords goes on its
name. -/
theorem isTableClause_toText (isWritable : definition.IsWritable) :
    isTableClause definition.toText.toList = false := by
  have hbehind : ∀ word ∈ tableWords, ∀ after,
      afterKeyword? word.toList definition.toText.toList = some after →
        ∃ c later, after = c :: later ∧ isWord c = true := by
    intro word hword after h
    have hletters : ∀ word ∈ tableWords, ∀ letter ∈ word.toList, isLetter letter ' ' = false := by
      decide +kernel
    rw [toList_toText] at h
    exact afterKeyword?_of_not_spells (hletters word hword) (isWritable.notClause word hword)
      (fun c hc => isWritable.name.isWord_of_mem hc) h
  have hphrase : ∀ word ∈ tableWords, ∀ next words,
      afterPhrase? (word :: next :: words) definition.toText.toList = none := by
    intro word hword next words
    have hblanks : (afterKeyword? word.toList definition.toText.toList).bind afterBlanks? = none := by
      rw [Option.bind_eq_none_iff]
      intro after hafter
      obtain ⟨c, later, rfl, hc⟩ := hbehind word hword after hafter
      rw [afterBlanks?, not_isBlank_of_isWord hc]
      rfl
    rw [afterPhrase?, hblanks, Option.bind_none]
  have hwhole : ∀ word ∈ tableWords, afterWhole? [word] definition.toText.toList = none := by
    intro word hword
    rw [afterWhole?, Option.filter_eq_none_iff]
    intro after hafter
    obtain ⟨c, later, rfl, hc⟩ := hbehind word hword after hafter
    simp [startsWithWord, hc]
  have hunique : (afterPhrase? ["unique"] definition.toText.toList).bind
      (fun rest => afterChar? '(' (trimStart rest)) = none := by
    rw [Option.bind_eq_none_iff]
    intro after hafter
    obtain ⟨c, later, rfl, hc⟩ := hbehind "unique" (by decide) after hafter
    have hne : c ≠ '(' := ne_of_isWord hc (by decide)
    simp [trimStart, not_isBlank_of_isWord hc, afterChar?, hne]
  have hpair : ∀ word ∈ tableWords, ∀ next,
      afterWhole? [word, next] definition.toText.toList = none := by
    intro word hword next
    rw [afterWhole?, hphrase word hword, Option.filter_none]
  rw [isTableClause, hphrase "primary" (by decide), hpair "unique" (by decide),
    hpair "unique" (by decide), hunique, hwhole "key" (by decide), hwhole "index" (by decide),
    hwhole "constraint" (by decide), hphrase "foreign" (by decide)]
  rfl

/-- The last word of a text can be told from it: white space stands before it, and perhaps behind. -/
theorem eq_of_last_word {before word blanks front gap other after : List Char}
    (hne : word ≠ []) (hword : ∀ c ∈ word, isWord c = true) (hblanks : AreBlanks blanks)
    (isGap : IsGap gap) (hotherNe : other ≠ []) (hother : ∀ c ∈ other, isWord c = true)
    (hafter : AreBlanks after)
    (h : before ++ ' ' :: (word ++ blanks) = front ++ (gap ++ (other ++ after))) : word = other := by
  have hmem : ∀ {run : List Char} {p : Char → Bool} {value : Bool}, (∀ c ∈ run, p c = value) →
      ∀ c ∈ run.reverse, p c = value := fun hrun c hc => hrun c (List.mem_reverse.mp hc)
  have hhead : ∀ {run back : List Char} {p : Char → Bool} {value : Bool}, run ≠ [] →
      (∀ c ∈ run, p c = value) → ∀ c ∈ (run.reverse ++ back).head?, p c = value := by
    intro run back p value hrun hall
    obtain ⟨d, later, hcons⟩ := List.exists_cons_of_ne_nil (List.reverse_ne_nil_iff.mpr hrun)
    rw [hcons]
    rintro c ⟨⟩
    exact hmem hall d (hcons ▸ List.mem_cons_self)
  have hsolid : ∀ {run : List Char}, (∀ c ∈ run, isWord c = true) → ∀ c ∈ run, isBlank c = false :=
    fun hrun c hc => not_isBlank_of_isWord (hrun c hc)
  have hgap : ∀ c ∈ gap, isWord c = false := fun c hc => (not_word_of_isBlank (isGap.2 c hc)).1
  have hreversed : blanks.reverse ++ (word.reverse ++ ' ' :: before.reverse) =
      after.reverse ++ (other.reverse ++ (gap.reverse ++ front.reverse)) := by
    simpa using congrArg List.reverse h
  have hwords := congrArg (List.dropWhile isBlank) hreversed
  rw [dropWhile_run_append (hmem hblanks) (hhead hne (hsolid hword)),
    dropWhile_run_append (hmem hafter) (hhead hotherNe (hsolid hother))] at hwords
  have hlast := congrArg (List.takeWhile isWord) hwords
  rw [takeWhile_run_append (hmem hword) (by rintro c ⟨⟩; decide),
    takeWhile_run_append (hmem hother) (hhead isGap.1 hgap)] at hlast
  exact List.reverse_inj.mp hlast

/-- A text that ends before its first parenthesis with a type does not begin with a primary key of the
table: the type is not called like the second keyword. -/
theorem primaryClause?_type {name word blanks text rest : List Char} (hne : word ≠ [])
    (hword : ∀ c ∈ word, isWord c = true) (hkey : ¬ Spells "key".toList word)
    (hblanks : AreBlanks blanks) (hname : ∀ c ∈ name, isWord c = true)
    (hsuffix : text <:+ name ++ ' ' :: (word ++ blanks)) :
    primaryClause? (text ++ '(' :: rest) = none := by
  have isStop : IsStop '(' := ⟨by decide, by decide, by decide⟩
  have hfree : ∀ c ∈ name ++ ' ' :: (word ++ blanks), c ≠ '(' := by
    have hblank : ∀ c ∈ blanks, c ≠ '(' := by
      rintro c hc rfl
      exact absurd (hblanks _ hc) (by decide)
    have hrun : ∀ run : List Char, (∀ c ∈ run, isWord c = true) → ∀ c ∈ run, c ≠ '(' :=
      fun run hrun c hc => ne_of_isWord (hrun c hc) (by decide)
    simp only [List.forall_mem_append, List.forall_mem_cons]
    exact ⟨hrun name hname, by decide, hrun word hword, hblank⟩
  rw [primaryClause?, afterPhrase?_stop isStop rest (by decide), Option.bind_eq_none_iff]
  intro extended hextended
  obtain ⟨after, hphrase, rfl⟩ := Option.map_eq_some_iff.mp hextended
  obtain ⟨front, written, rfl⟩ := afterPhrase?_eq_some (by decide) hphrase
  rw [Function.comp_apply, trimStart_stop isStop, Option.eq_none_iff_forall_ne_some]
  rintro ⟨inside, behind⟩ hbracket
  obtain ⟨htrim, -⟩ := takeBracketed?_eq_some_iff.mp hbracket
  have hafter : AreBlanks after := by
    obtain ⟨skipped, hskipped, hsplit⟩ := exists_trimStart after
    cases hrest : trimStart after with
    | nil =>
        rw [hrest, List.append_nil] at hsplit
        rwa [hsplit]
    | cons c later =>
        rw [hrest] at htrim hsplit
        obtain ⟨rfl, -⟩ := List.cons_eq_cons.mp htrim
        exact absurd rfl (hfree '(' (hsuffix.subset (by rw [hsplit]; simp)))
  obtain ⟨lead, hlead⟩ := hsuffix
  cases written with
  | next hprimary isGap later =>
      cases later with
      | next _ _ later => cases later
      | last spells =>
          rename_i spelled gap key
          have hkeyword : ∀ c ∈ key, isWord c = true := Spells.isWord (by decide) spells
          have hkeyNe : key ≠ [] := by
            rintro rfl
            cases spells
          have hsplit : name ++ ' ' :: (word ++ blanks) =
              (lead ++ spelled) ++ (gap ++ (key ++ after)) := by
            rw [← hlead]
            simp only [List.append_assoc]
          have hsame := eq_of_last_word hne hword hblanks isGap hkeyNe hkeyword hafter hsplit
          exact hkey (hsame ▸ spells)

/-- What ends a text ends its second part, or else is that with an end of the first part before it. -/
theorem suffix_append_cases {text front back : List Char} (h : text <:+ front ++ back) :
    text <:+ back ∨ ∃ later, later <:+ front ∧ text = later ++ back := by
  obtain ⟨lead, hlead⟩ := h
  rcases List.append_eq_append_iff.mp hlead with ⟨middle, rfl, rfl⟩ | ⟨middle, rfl, rfl⟩
  · exact .inr ⟨middle, List.suffix_append lead middle, rfl⟩
  · exact .inl (List.suffix_append middle text)

/-- The text of a definition has nothing to be cut before a bracket, and nothing behind it. -/
theorem toText_cases (isWritable : definition.IsWritable) :
    (∀ c ∈ definition.toText.toList, isUncut c = true) ∨
      ∃ word blanks inside, word ≠ [] ∧ (∀ c ∈ word, isWord c = true) ∧
        ¬ Spells "key".toList word ∧ AreBlanks blanks ∧ (∀ c ∈ inside, c ≠ '(' ∧ c ≠ ')') ∧
        definition.toText.toList = (definition.name.toList ++ ' ' :: (word ++ blanks)) ++
          '(' :: (inside ++ ')' :: clauseChars definition) := by
  have hname : ∀ c ∈ definition.name.toList, isUncut c = true :=
    fun c hc => isUncut_of_isWord (isWritable.name.isWord_of_mem hc)
  have htype := isWritable.type
  generalize hchars : definition.type.toList = type at htype
  cases htype with
  | word hne hword hkey =>
      left
      rw [toList_toText, hchars]
      simp only [List.forall_mem_append, List.forall_mem_cons]
      exact ⟨hname, by decide, fun c hc => isUncut_of_isWord (hword c hc),
        isUncut_clauseChars isWritable⟩
  | @bracket word blanks inside hne hword hkey hblanks hfree =>
      right
      refine ⟨word, blanks, inside, hne, hword, hkey, hblanks, hfree, ?_⟩
      rw [toList_toText, hchars]
      simp only [List.append_assoc, List.cons_append, List.nil_append]

/-- Nothing, or a comma with more behind it. -/
def EndsItem (rest : List Char) : Prop :=
  rest = [] ∨ ∃ later, rest = ',' :: later

theorem primaryClause?_item {text rest : List Char} (endsItem : EndsItem rest) (hfree : '(' ∉ text) :
    primaryClause? (text ++ rest) = none := by
  rcases endsItem with rfl | ⟨later, rfl⟩
  · rw [List.append_nil]
    exact primaryClause?_eq_none hfree
  · exact primaryClause?_stop_eq_none ⟨by decide, by decide, by decide⟩ (by decide) hfree

/-- No primary key of the table begins anywhere in the text of a definition. -/
theorem primaryClause?_toText {text rest : List Char} (isWritable : definition.IsWritable)
    (endsItem : EndsItem rest) (hsuffix : text <:+ definition.toText.toList) :
    primaryClause? (text ++ rest) = none := by
  have hclauses : '(' ∉ clauseChars definition := fun hmem =>
    (isUncut_iff.mp (isUncut_clauseChars isWritable _ hmem)).2.1 rfl
  rcases toText_cases isWritable with huncut |
    ⟨word, blanks, inside, hne, hword, hkey, hblanks, hfree, htext⟩
  · exact primaryClause?_item endsItem fun hmem =>
      (isUncut_iff.mp (huncut _ (hsuffix.subset hmem))).2.1 rfl
  · have isStop : IsStop ')' := ⟨by decide, by decide, by decide⟩
    rw [htext] at hsuffix
    rcases suffix_append_cases hsuffix with hbracket | ⟨later, hlater, rfl⟩
    · rcases List.suffix_cons_iff.mp hbracket with rfl | hinside
      · rfl
      · rcases suffix_append_cases hinside with hbehind | ⟨later, hlater, rfl⟩
        · refine primaryClause?_item endsItem fun hmem => ?_
          rcases List.mem_cons.mp (hbehind.subset hmem) with heq | hmem
          · cases heq
          · exact hclauses hmem
        · rw [List.append_assoc]
          exact primaryClause?_stop_eq_none isStop (by decide) fun hmem =>
            (hfree _ (hlater.subset hmem)).1 rfl
    · rw [List.append_assoc]
      exact primaryClause?_type hne hword hkey hblanks
        (fun c hc => isWritable.name.isWord_of_mem hc) hlater

/-- The text of a body with a list of definitions. -/
def bodyChars (definitions : List ColumnDefinition) : List Char :=
  commaList (definitions.map fun definition => definition.toText.toList)

variable {definitions : List ColumnDefinition}

theorem bodyChars_cons_cons (first next : ColumnDefinition) (rest : List ColumnDefinition) :
    bodyChars (first :: next :: rest) =
      first.toText.toList ++ ',' :: ' ' :: bodyChars (next :: rest) := by
  simp [bodyChars]

/-- No body of definitions names a primary key for the table. -/
theorem primaryName?_bodyChars (areWritable : ∀ definition ∈ definitions, definition.IsWritable) :
    primaryName? (bodyChars definitions) = none := by
  have hnowhere : ∀ text, text <:+ bodyChars definitions → primaryClause? text = none := by
    induction definitions with
    | nil =>
        intro text hsuffix
        rw [List.suffix_nil.mp hsuffix]
        rfl
    | cons first rest ih =>
        intro text hsuffix
        have isWritable := areWritable first List.mem_cons_self
        cases rest with
        | nil =>
            have hsingle : bodyChars [first] = first.toText.toList := commaList_singleton _
            rw [hsingle] at hsuffix
            have hitem := primaryClause?_toText isWritable (.inl rfl) hsuffix
            rwa [List.append_nil] at hitem
        | cons next later =>
            rw [bodyChars_cons_cons] at hsuffix
            rcases suffix_append_cases hsuffix with hbehind | ⟨front, hfront, rfl⟩
            · rcases List.suffix_cons_iff.mp hbehind with rfl | hbehind
              · rfl
              · rcases List.suffix_cons_iff.mp hbehind with rfl | hbehind
                · rfl
                · exact ih (fun other hother => areWritable other (List.mem_cons_of_mem _ hother)) text
                    hbehind
            · exact primaryClause?_toText isWritable (.inr ⟨_, rfl⟩) hfront
  rw [primaryName?_eq, findAnywhere?_eq_none hnowhere, Option.bind_none]

/-- The text of a definition opens its brackets before it closes them, and is one piece. -/
theorem cutBody_toText (isWritable : definition.IsWritable) (rest : List Char) :
    (closesNext rest = false → closesNext (definition.toText.toList ++ rest) = false) ∧
      cutBody (definition.toText.toList ++ rest) =
        prepend definition.toText.toList (cutBody rest) := by
  rcases toText_cases isWritable with huncut |
    ⟨word, blanks, inside, hne, hword, hkey, hblanks, hfree, htext⟩
  · refine ⟨fun hrest => ?_, cutBody_uncut huncut rest⟩
    rwa [closesNext_uncut huncut]
  · have hfront : ∀ c ∈ definition.name.toList ++ ' ' :: (word ++ blanks), isUncut c = true := by
      simp only [List.forall_mem_append, List.forall_mem_cons]
      exact ⟨fun c hc => isUncut_of_isWord (isWritable.name.isWord_of_mem hc), by decide,
        fun c hc => isUncut_of_isWord (hword c hc), fun c hc => isUncut_of_isBlank (hblanks c hc)⟩
    have hsplit : definition.toText.toList ++ rest =
        (definition.name.toList ++ ' ' :: (word ++ blanks)) ++
          '(' :: (inside ++ ')' :: (clauseChars definition ++ rest)) := by
      rw [htext]
      simp only [List.append_assoc, List.cons_append]
    have hopening : ('(' : Char) ≠ ',' := by decide
    have hclosing : (')' : Char) ≠ ',' := by decide
    constructor
    · intro _
      rw [hsplit, closesNext_uncut hfront, closesNext_opening]
    · rw [hsplit, cutBody_uncut hfront, cutBody_cons (.inl hopening), cutBody_bracket hfree,
        cutBody_cons (.inl hclosing), cutBody_uncut (isUncut_clauseChars isWritable)]
      simp only [← prepend_append, htext, List.append_assoc, List.cons_append, List.nil_append]

/-- A body of definitions is cut into their texts. -/
theorem cutBody_bodyChars {first : ColumnDefinition}
    (areWritable : ∀ definition ∈ first :: definitions, definition.IsWritable) :
    closesNext (bodyChars (first :: definitions)) = false ∧
      cutBody (bodyChars (first :: definitions)) =
        first.toText.toList :: definitions.map (' ' :: ·.toText.toList) := by
  induction definitions generalizing first with
  | nil =>
      have hsingle : bodyChars [first] = first.toText.toList ++ [] := by simp [bodyChars]
      obtain ⟨hcloses, hcut⟩ := cutBody_toText (areWritable first List.mem_cons_self) []
      rw [hsingle, hcut]
      exact ⟨hcloses rfl, by simp [cutBody]⟩
  | cons next rest ih =>
      obtain ⟨hlater, hpieces⟩ :=
        ih fun other hother => areWritable other (List.mem_cons_of_mem _ hother)
      have hspace : closesNext (' ' :: bodyChars (next :: rest)) = false := hlater
      have hspaced : cutBody (' ' :: bodyChars (next :: rest)) =
          (' ' :: next.toText.toList) :: rest.map (' ' :: ·.toText.toList) := by
        rw [cutBody_cons (.inl (by decide)), hpieces]
        rfl
      obtain ⟨hcloses, hcut⟩ := cutBody_toText (areWritable first List.mem_cons_self)
        (',' :: ' ' :: bodyChars (next :: rest))
      rw [bodyChars_cons_cons, hcut, cutBody_comma hspace, hspaced]
      exact ⟨hcloses hspace, by simp⟩

/-- The text of a definition does not end with white space. -/
theorem not_isBlank_of_mem_getLast? (isWritable : definition.IsWritable) :
    ∀ c ∈ definition.toText.toList.getLast?, isBlank c = false := by
  have hclauses : ∀ c ∈ (clauseChars definition).getLast?, isBlank c = false := by
    cases hdefault : definition.default with
    | none =>
        rw [clauseChars_of_default_eq_none hdefault]
        cases definition.nullable <;> cases definition.key <;> cases definition.autoIncrement <;>
          decide +kernel
    | some text =>
        have hback : ∀ c ∈ ('\x27' :: backClauses definition.autoIncrement).getLast?,
            isBlank c = false := by
          cases definition.autoIncrement <;> decide +kernel
        rwa [clauseChars_of_default_eq_some hdefault, quoted,
          List.getLast?_append_of_ne_nil _ (List.cons_ne_nil _ _), ← List.cons_append,
          List.getLast?_append_of_ne_nil _ (List.cons_ne_nil _ _)]
  have htype : ∀ c ∈ definition.type.toList.getLast?, isBlank c = false := by
    have hwrites := isWritable.type
    generalize definition.type.toList = type at hwrites
    cases hwrites with
    | word hne hword hkey => exact fun c hc => not_isBlank_of_isWord (hword c (List.mem_of_getLast? hc))
    | @bracket word blanks inside hne hword hkey hblanks hfree =>
        have hsplit : word ++ (blanks ++ '(' :: (inside ++ [')'])) =
            (word ++ (blanks ++ '(' :: inside)) ++ [')'] := by simp
        rw [hsplit, List.getLast?_concat]
        rintro c ⟨⟩
        decide
  have hne : definition.type.toList ++ clauseChars definition ≠ [] := by
    obtain ⟨c, later, htype, -⟩ := isWritable.type.exists_cons
    simp [htype]
  have hspace : definition.toText.toList = (definition.name.toList ++ [' ']) ++
      (definition.type.toList ++ clauseChars definition) := by
    rw [toList_toText, List.append_assoc]
    rfl
  rw [hspace, List.getLast?_append_of_ne_nil _ hne, List.getLast?_append]
  cases hlast : (clauseChars definition).getLast? with
  | none => exact htype
  | some c =>
      rintro d ⟨⟩
      exact hclauses c hlast

theorem trim_toText (isWritable : definition.IsWritable) {blanks : List Char}
    (areBlanks : AreBlanks blanks) :
    trim (blanks ++ definition.toText.toList) = definition.toText.toList := by
  rw [trim, stripWhile_append areBlanks]
  refine stripWhile_eq_self ?_ (not_isBlank_of_mem_getLast? isWritable)
  obtain ⟨c, later, hname, hword⟩ := isWritable.name.exists_cons
  rw [toList_toText, hname]
  rintro d ⟨⟩
  exact not_isBlank_of_isWord hword

theorem fragments_bodyChars (areWritable : ∀ definition ∈ definitions, definition.IsWritable) :
    fragments (bodyChars definitions) = definitions.map fun definition =>
      definition.toText.toList := by
  cases definitions with
  | nil => rfl
  | cons first rest =>
      have hspace : AreBlanks [' '] := by decide +kernel
      have hfirst : trim ([] ++ first.toText.toList) = first.toText.toList :=
        trim_toText (areWritable first List.mem_cons_self) (by simp [AreBlanks])
      have hrest : (rest.map (' ' :: ·.toText.toList)).map trim =
          rest.map fun definition => definition.toText.toList := by
        rw [List.map_map]
        refine List.map_congr_left fun definition hdefinition => ?_
        have hlater := trim_toText (areWritable definition (List.mem_cons_of_mem _ hdefinition)) hspace
        rwa [List.singleton_append] at hlater
      have hpieces : (cutBody (bodyChars (first :: rest))).map trim =
          (first :: rest).map fun definition => definition.toText.toList := by
        rw [List.nil_append] at hfirst
        rw [(cutBody_bodyChars areWritable).2, List.map_cons, hrest, List.map_cons, hfirst]
      rw [fragments, hpieces, List.filter_eq_self]
      intro fragment hfragment
      obtain ⟨definition, -, rfl⟩ := List.mem_map.mp hfragment
      simp [toList_toText]

/-- Columns are added as they were written. -/
theorem foldl_addFragment {columns : List ColumnDefinition}
    (areWritable : ∀ definition ∈ definitions, definition.IsWritable)
    (hprimary : primaryCount (columns ++ definitions) ≤ 1) :
    (definitions.map fun definition => definition.toText.toList).foldl (addFragment none) columns =
      columns ++ definitions := by
  induction definitions generalizing columns with
  | nil => simp
  | cons first rest ih =>
      have hfirst : first.key = .primary → haveKey columns = false := by
        intro hkey
        have hcount : columns.countP (·.key == .primary) = 0 := by
          rw [primaryCount, List.countP_append, List.countP_cons] at hprimary
          simp only [hkey, beq_self_eq_true, if_true] at hprimary
          omega
        simpa [haveKey, List.countP_eq_zero] using hcount
      have hread := readColumn?_toText (areWritable first List.mem_cons_self) hfirst
      have hlater := @ih (columns ++ [first])
        (fun other hother => areWritable other (List.mem_cons_of_mem _ hother)) (by simpa using hprimary)
      simp only [List.map_cons, List.foldl_cons, addFragment, hread]
      simpa using hlater

/-- Definitions that can be told from their texts are read from a body of these texts, if at most one of
them is the primary key. -/
theorem readBody_bodyChars (definitions : List ColumnDefinition)
    (areWritable : ∀ definition ∈ definitions, definition.IsWritable)
    (hprimary : primaryCount definitions ≤ 1) : readBody (bodyChars definitions) = definitions := by
  have hcolumns : ∀ fragment ∈ definitions.map fun definition => definition.toText.toList,
      isTableClause fragment = false := by
    intro fragment hfragment
    obtain ⟨definition, hdefinition, rfl⟩ := List.mem_map.mp hfragment
    exact isTableClause_toText (areWritable definition hdefinition)
  have hclauses : (definitions.map fun definition => definition.toText.toList).filter isTableClause =
      [] := by
    rw [List.filter_eq_nil_iff]
    intro fragment hfragment
    simp [hcolumns fragment hfragment]
  have hkept : (definitions.map fun definition => definition.toText.toList).filter
      (not ∘ isTableClause) = definitions.map fun definition => definition.toText.toList := by
    rw [List.filter_eq_self]
    intro fragment hfragment
    simp [hcolumns fragment hfragment]
  rw [readBody, fragments_bodyChars areWritable, List.partition_eq_filter_filter, hclauses, hkept,
    primaryName?_bodyChars areWritable]
  exact foldl_addFragment areWritable hprimary

/-- The columns of a table of goods: a numbered key, a price with a default and a unique code. -/
def goodsColumns : List ColumnDefinition :=
  [{ name := "id", type := "int", key := .primary, autoIncrement := true },
    { name := "price", type := "decimal(10, 2)", nullable := false, default := some "0.00" },
    { name := "code", type := "char (8)", key := .unique }]

theorem readBody_goodsColumns :
    bodyChars goodsColumns = ("id int PRIMARY KEY AUTO_INCREMENT, " ++
      "price decimal(10, 2) NOT NULL DEFAULT '0.00', code char (8) UNIQUE").toList ∧
    (∀ definition ∈ goodsColumns, definition.IsWritable) ∧ primaryCount goodsColumns ≤ 1 ∧
      readBody (bodyChars goodsColumns) = goodsColumns := by
  have hint : WritesType "int".toList := by
    refine .word ?_ ?_ ?_ <;> decide +kernel
  have hdecimal : WritesType "decimal(10, 2)".toList := by
    refine @WritesType.bracket "decimal".toList [] "10, 2".toList ?_ ?_ ?_ ?_ ?_ <;> decide +kernel
  have hchar : WritesType "char (8)".toList := by
    refine @WritesType.bracket "char".toList [' '] ['8'] ?_ ?_ ?_ ?_ ?_ <;> decide +kernel
  have areWritable : ∀ definition ∈ goodsColumns, definition.IsWritable := by
    simp only [goodsColumns, List.forall_mem_cons]
    refine ⟨⟨?_, ?_, hint, ?_, ?_, rfl⟩, ⟨?_, ?_, hdecimal, ?_, ?_, rfl⟩,
      ⟨?_, ?_, hchar, ?_, ?_, rfl⟩, by simp⟩
    all_goals decide +kernel
  have hprimary : primaryCount goodsColumns ≤ 1 := by decide
  exact ⟨by decide +kernel, areWritable, hprimary,
    readBody_bodyChars goodsColumns areWritable hprimary⟩

end ColumnDefinition

end MockSql
