/-
# The text of a column

A column is written as its name, its type and its clauses, with spaces between them. Read again, this text
gives the column: its type ends where its clauses begin, and a default without letters and punctuation
that separates is neither taken for a clause nor hides one.
-/

import MockSql.Proofs.Bodies

namespace MockSql

open MockSql.Text

namespace ColumnDefinition

/-- The words that a table-level clause can begin with. -/
def tableWords : List String :=
  ["primary", "unique", "key", "index", "constraint", "foreign"]

/-- The ways of writing a type: a word other than the keyword of a key, and perhaps a bracket without
brackets inside. -/
inductive WritesType : List Char → Prop
  | word {word : List Char} (hne : word ≠ []) (hword : ∀ c ∈ word, isWord c = true)
      (hkey : ¬ Spells "key".toList word) : WritesType word
  | bracket {word blanks inside : List Char} (hne : word ≠ []) (hword : ∀ c ∈ word, isWord c = true)
      (hkey : ¬ Spells "key".toList word) (hblanks : AreBlanks blanks)
      (hfree : ∀ c ∈ inside, c ≠ '(' ∧ c ≠ ')') :
      WritesType (word ++ (blanks ++ '(' :: (inside ++ [')'])))

/-- A character of defaults: neither a letter of a keyword nor the low line, nor a single quote, a
comma or a parenthesis. -/
def isDefaultChar (c : Char) : Bool :=
  !('_' :: alphabet).any (isLetter · c) && c != '\x27' && isUncut c

/-- A definition that can be told from its text. -/
structure IsWritable (definition : ColumnDefinition) : Prop where
  name : IsName definition.name
  notClause : ∀ word ∈ tableWords, ¬ Spells word.toList definition.name.toList
  type : WritesType definition.type.toList
  key : definition.key ≠ .multiple
  default : ∀ text, definition.default = some text → ∀ c ∈ text.toList, isDefaultChar c = true
  reference : definition.reference = none

/-- The clause of a key. -/
def keyClause : KeyKind → List Char
  | .primary => " PRIMARY KEY".toList
  | .unique => " UNIQUE".toList
  | _ => []

/-- The clauses before a default. -/
def frontClauses (nullable : Bool) (key : KeyKind) : List Char :=
  (if nullable then [] else " NOT NULL".toList) ++ keyClause key

/-- The clauses behind a default. -/
def backClauses (autoIncrement : Bool) : List Char :=
  if autoIncrement then " AUTO_INCREMENT".toList else []

/-- What stands before the quote of a default. -/
def defaultWord : List Char := " DEFAULT ".toList

/-- A default. -/
def defaultClause : Option String → List Char
  | none => []
  | some text => defaultWord ++ quoted text.toList []

/-- The clauses of a definition. -/
def clauseChars (definition : ColumnDefinition) : List Char :=
  frontClauses definition.nullable definition.key ++
    (defaultClause definition.default ++ backClauses definition.autoIncrement)

variable {definition : ColumnDefinition}

/-- A word with a space before it. -/
def spaced (word : String) : List Char :=
  ' ' :: word.toList

theorem flatMap_spaced_clauses (definition : ColumnDefinition) :
    definition.clauses.flatMap spaced = clauseChars definition := by
  have hnullable : ∀ nullable : Bool, (if nullable then [] else ["NOT NULL"]).flatMap spaced =
      if nullable then [] else " NOT NULL".toList := by
    decide
  have hincrement : ∀ autoIncrement : Bool,
      (if autoIncrement then [autoIncrementMark] else []).flatMap spaced =
        backClauses autoIncrement := by
    decide
  rw [clauses, List.flatMap_append, List.flatMap_append, List.flatMap_append, hnullable, hincrement,
    clauseChars, frontClauses, List.append_assoc, List.append_assoc, List.append_assoc]
  congr 2
  · cases definition.key <;> rfl
  · cases definition.default with
    | none => rfl
    | some text =>
        rw [List.flatMap_singleton, spaced, String.toList_append, String.toList_append]
        rfl

theorem intercalate_spaced (first : String) (rest : List String) :
    (" ".intercalate (first :: rest)).toList = first.toList ++ rest.flatMap spaced := by
  induction rest generalizing first with
  | nil => simp
  | cons next rest ih => rw [String.intercalate_cons_cons]; simp [ih, spaced]

theorem toList_toText (definition : ColumnDefinition) : definition.toText.toList =
    definition.name.toList ++ ' ' :: (definition.type.toList ++ clauseChars definition) := by
  rw [toText, intercalate_spaced, List.flatMap_cons, flatMap_spaced_clauses]
  rfl

theorem ne_of_isDefaultChar {c : Char} (hc : isDefaultChar c = true) :
    (∀ letter ∈ '_' :: alphabet, isLetter letter c = false) ∧ c ≠ '\x27' ∧ isUncut c = true := by
  simpa only [isDefaultChar, Bool.and_eq_true, Bool.not_eq_true', List.any_eq_false, bne_iff_ne, ne_eq,
    Bool.not_eq_true, and_assoc] using hc

/-- There is no keyword in a text without letters of keywords. -/
theorem hasPhrase_eq_false {word : String} {words : List String} {text : List Char}
    (isKeyword : IsPhraseWord word) (hchars : ∀ c ∈ text, isDefaultChar c = true) :
    hasPhrase (word :: words) text = false := by
  obtain ⟨letter, later, hword⟩ := List.exists_cons_of_ne_nil isKeyword.1
  have hnone : ∀ rest, rest <:+ text → afterPhrase? (word :: words) rest = none := by
    intro rest hrest
    refine afterPhrase?_eq_none words ?_
    cases rest with
    | nil => rw [hword, afterKeyword?]
    | cons c rest =>
        have hc := (ne_of_isDefaultChar (hchars c (hrest.subset List.mem_cons_self))).1 letter
          (isKeyword.2 letter (hword ▸ List.mem_cons_self))
        rw [hword, afterKeyword?, hc]
        rfl
  rw [hasPhrase, findWord?, findFrom?_eq_none]
  · rfl
  · intro rest hrest
    rw [hnone rest hrest, Option.filter_none]

/-- The clauses before the quote of a default, with its keyword. -/
def opening (definition : ColumnDefinition) : List Char :=
  frontClauses definition.nullable definition.key ++ defaultWord

theorem clauseChars_of_default_eq_none (hdefault : definition.default = none) :
    clauseChars definition = frontClauses definition.nullable definition.key ++
      backClauses definition.autoIncrement := by
  rw [clauseChars, hdefault]
  rfl

theorem clauseChars_of_default_eq_some {text : String} (hdefault : definition.default = some text) :
    clauseChars definition =
      opening definition ++ quoted text.toList (backClauses definition.autoIncrement) := by
  rw [clauseChars, hdefault]
  simp [defaultClause, opening, quoted]

/-- A default without letters neither makes a clause nor hides one: what can be found is what the other
parts of the definition say. -/
theorem hasPhrase_clauseChars {word : String} {words : List String}
    {stated : Bool → KeyKind → Bool → Bool}
    (areWords : ∀ other ∈ word :: words, IsPhraseWord other)
    (hbare : ∀ nullable key autoIncrement, hasPhrase (word :: words)
      (frontClauses nullable key ++ backClauses autoIncrement) = stated nullable key autoIncrement)
    (hquoted : ∀ nullable key autoIncrement,
      (hasPhrase (word :: words) (frontClauses nullable key ++ defaultWord) ||
        hasPhrase (word :: words) (backClauses autoIncrement)) = stated nullable key autoIncrement)
    (isWritable : definition.IsWritable) : hasPhrase (word :: words) (clauseChars definition) =
      stated definition.nullable definition.key definition.autoIncrement := by
  cases hdefault : definition.default with
  | none =>
      rw [clauseChars_of_default_eq_none hdefault]
      exact hbare _ _ _
  | some text =>
      rw [clauseChars_of_default_eq_some hdefault, hasPhrase_quoted areWords,
        hasPhrase_eq_false (areWords word List.mem_cons_self) (isWritable.default text hdefault),
        Bool.false_or]
      exact hquoted _ _ _

theorem not_null_clauseChars (isWritable : definition.IsWritable) :
    hasPhrase ["not", "null"] (clauseChars definition) = !definition.nullable := by
  refine @hasPhrase_clauseChars _ _ _ (fun nullable _ _ => !nullable) (by decide) ?_ ?_ isWritable
  all_goals
    intro nullable key autoIncrement
    cases nullable <;> cases key <;> cases autoIncrement <;> decide +kernel

theorem primary_key_clauseChars (isWritable : definition.IsWritable) :
    hasPhrase ["primary", "key"] (clauseChars definition) = (definition.key == .primary) := by
  refine @hasPhrase_clauseChars _ _ _ (fun _ key _ => key == .primary) (by decide) ?_ ?_ isWritable
  all_goals
    intro nullable key autoIncrement
    cases nullable <;> cases key <;> cases autoIncrement <;> decide +kernel

theorem unique_clauseChars (isWritable : definition.IsWritable) :
    hasPhrase ["unique"] (clauseChars definition) = (definition.key == .unique) := by
  refine @hasPhrase_clauseChars _ _ _ (fun _ key _ => key == .unique) (by decide) ?_ ?_ isWritable
  all_goals
    intro nullable key autoIncrement
    cases nullable <;> cases key <;> cases autoIncrement <;> decide +kernel

theorem auto_increment_clauseChars (isWritable : definition.IsWritable) :
    hasPhrase ["auto_increment"] (clauseChars definition) = definition.autoIncrement := by
  refine @hasPhrase_clauseChars _ _ _ (fun _ _ autoIncrement => autoIncrement) (by decide) ?_ ?_
    isWritable
  all_goals
    intro nullable key autoIncrement
    cases nullable <;> cases key <;> cases autoIncrement <;> decide +kernel

/-- Nothing in the clauses is cut. -/
theorem isUncut_clauseChars (isWritable : definition.IsWritable) :
    ∀ c ∈ clauseChars definition, isUncut c = true := by
  have hfront : ∀ c ∈ frontClauses definition.nullable definition.key, isUncut c = true := by
    cases definition.nullable <;> cases definition.key <;> decide +kernel
  have hback : ∀ c ∈ backClauses definition.autoIncrement, isUncut c = true := by
    cases definition.autoIncrement <;> decide +kernel
  have hword : ∀ c ∈ defaultWord, isUncut c = true := by decide +kernel
  have hquote : isUncut '\x27' = true := by decide
  have hdefault : ∀ c ∈ defaultClause definition.default, isUncut c = true := by
    cases hclause : definition.default with
    | none => simp [defaultClause]
    | some text =>
        have htext : ∀ c ∈ text.toList, isUncut c = true :=
          fun c hc => (ne_of_isDefaultChar (isWritable.default text hclause c hc)).2.2
        simp only [defaultClause, quoted, List.forall_mem_append, List.forall_mem_cons]
        exact ⟨hword, hquote, htext, hquote, by simp⟩
  simp only [clauseChars, List.forall_mem_append]
  exact ⟨hfront, hdefault, hback⟩

theorem default?_clauseChars (isWritable : definition.IsWritable) :
    default? (clauseChars definition) = definition.default := by
  cases hdefault : definition.default with
  | none =>
      rw [clauseChars_of_default_eq_none hdefault]
      cases definition.nullable <;> cases definition.key <;> cases definition.autoIncrement <;>
        decide +kernel
  | some text =>
      have hquote : '\x27' ∉ text.toList :=
        fun hmem => (ne_of_isDefaultChar (isWritable.default text hdefault _ hmem)).2.1 rfl
      have hopening : findWord? afterDefault? (opening definition) = some [] := by
        rw [opening]
        cases definition.nullable <;> cases definition.key <;> decide +kernel
      rw [clauseChars_of_default_eq_some hdefault, default?_quoted hopening hquote,
        String.ofList_toList]

/-- A definition is made again of its name, its type and its clauses. -/
theorem ofClauses_clauseChars {hasPrimary : Bool} (isWritable : definition.IsWritable)
    (hprimary : definition.key = .primary → hasPrimary = false) :
    ofClauses none hasPrimary definition.name definition.type (clauseChars definition) =
      definition := by
  have hreference : reference? (clauseChars definition) = definition.reference := by
    rw [isWritable.reference]
    exact reference?_eq_none fun hmem =>
      (isUncut_iff.mp (isUncut_clauseChars isWritable _ hmem)).2.1 rfl
  have hkey : (if (definition.key == .primary) && !hasPrimary then KeyKind.primary
      else if definition.key == .unique then .unique else .none) = definition.key := by
    have hmultiple := isWritable.key
    cases hcase : definition.key with
    | primary => simp [hprimary hcase]
    | unique => simp
    | multiple => exact absurd hcase hmultiple
    | none => simp
  have hnone : (some definition.name == none) = false := rfl
  simp only [ofClauses, not_null_clauseChars isWritable, primary_key_clauseChars isWritable,
    unique_clauseChars isWritable, auto_increment_clauseChars isWritable,
    default?_clauseChars isWritable, hreference, hnone, Bool.false_or, hkey, Bool.not_not]

/-- What can stand behind a type without belonging to it. -/
structure FollowsType (clauses : List Char) : Prop where
  apart : ∀ c ∈ clauses.head?, isWord c = false
  unbracketed : ∀ c ∈ (trimStart clauses).head?, c ≠ '('
  signed : (afterBlanks? clauses).bind (afterPhrase? ["unsigned"]) = none

theorem followsType_clauseChars (definition : ColumnDefinition) :
    FollowsType (clauseChars definition) := by
  cases hdefault : definition.default with
  | none =>
      rw [clauseChars_of_default_eq_none hdefault]
      cases definition.nullable <;> cases definition.key <;> cases definition.autoIncrement <;>
        exact ⟨by decide +kernel, by decide +kernel, by decide +kernel⟩
  | some text =>
      have hfixed : (∀ c ∈ (opening definition).head?, isWord c = false) ∧
          (∀ c ∈ (trimStart (opening definition)).head?, c ≠ '(') ∧ opening definition ≠ [] ∧
          trimStart (opening definition) ≠ [] ∧
          (afterBlanks? (opening definition)).bind (afterPhrase? ["unsigned"]) = none := by
        rw [opening]
        cases definition.nullable <;> cases definition.key <;> decide +kernel
      obtain ⟨hhead, hopen, hne, hsolid, hsigned⟩ := hfixed
      have hfirst : ∀ {front back : List Char}, front ≠ [] → (front ++ back).head? = front.head? := by
        rintro (_ | ⟨c, front⟩) back hfront
        · exact absurd rfl hfront
        · rfl
      rw [clauseChars_of_default_eq_some hdefault]
      refine ⟨?_, ?_, ?_⟩
      · rwa [hfirst hne]
      · rwa [quoted, trimStart_stop isStop_quote, hfirst hsolid]
      · rw [quoted, afterBlanks?_stop isStop_quote]
        cases hblanks : afterBlanks? (opening definition) with
        | none => rfl
        | some after =>
            rw [hblanks, Option.bind_some] at hsigned
            rw [Option.map_some, Option.bind_some, afterPhrase?_stop isStop_quote _ (by decide),
              hsigned]
            rfl

variable {type clauses : List Char}

/-- The text of a type: a word, and perhaps a bracket behind it. -/
inductive IsTypeText : List Char → Prop
  | word {word : List Char} (hne : word ≠ []) (hword : ∀ c ∈ word, isWord c = true) :
      IsTypeText word
  | bracket {word blanks inside : List Char} (hne : word ≠ []) (hword : ∀ c ∈ word, isWord c = true)
      (hblanks : AreBlanks blanks) (hclosing : ')' ∉ inside) :
      IsTypeText (word ++ (blanks ++ '(' :: (inside ++ [')'])))

theorem WritesType.isTypeText (writes : WritesType type) : IsTypeText type := by
  cases writes with
  | word hne hword hkey => exact .word hne hword
  | bracket hne hword hkey hblanks hfree =>
      exact .bracket hne hword hblanks fun hmem => (hfree _ hmem).2 rfl

/-- Behind the word of a type no word character stands. -/
theorem not_isWord_of_mem_head?_bracket {blanks rest : List Char} (hblanks : AreBlanks blanks) :
    ∀ c ∈ (blanks ++ '(' :: rest).head?, isWord c = false := by
  cases blanks with
  | nil =>
      rintro c ⟨⟩
      decide
  | cons d blanks =>
      rintro c ⟨⟩
      exact (not_word_of_isBlank (hblanks d List.mem_cons_self)).1

/-- A type is taken as it is written. -/
theorem takeType?_append (isType : IsTypeText type) (follows : FollowsType clauses) :
    takeType? (type ++ clauses) = some (String.ofList type, clauses) := by
  have hnone : takeBracketed? (trimStart clauses) = none := by
    rw [Option.eq_none_iff_forall_ne_some]
    rintro ⟨inside, rest⟩ hbracket
    obtain ⟨htrim, -⟩ := takeBracketed?_eq_some_iff.mp hbracket
    exact follows.unbracketed '(' (by rw [htrim]; rfl) rfl
  cases isType with
  | word hne hword =>
      have hskip : skipOptional (fun after => (takeBracketed? (trimStart after)).map Prod.snd) clauses =
          clauses := by
        simp only [skipOptional, hnone, Option.map_none, Option.getD_none]
      simp only [takeType?, takeRun?_append hword hne follows.apart, Option.map_some, hskip,
        textBefore_append]
  | @bracket word blanks inside hne hword hblanks hclosing =>
      have hopening : ∀ c ∈ ('(' :: (inside ++ ')' :: clauses)).head?, isBlank c = false := by
        rintro c ⟨⟩
        decide
      have hbracket : takeBracketed? ('(' :: (inside ++ ')' :: clauses)) = some (inside, clauses) :=
        takeBracketed?_eq_some_iff.mpr ⟨rfl, hclosing⟩
      have hskip : skipOptional (fun after => (takeBracketed? (trimStart after)).map Prod.snd)
          (blanks ++ '(' :: (inside ++ ')' :: clauses)) = clauses := by
        simp only [skipOptional, trimStart_append hblanks hopening, hbracket, Option.map_some,
          Option.getD_some]
      have hsplit : word ++ (blanks ++ '(' :: (inside ++ [')'])) ++ clauses =
          word ++ (blanks ++ '(' :: (inside ++ ')' :: clauses)) := by simp
      have htext := textBefore_append (word ++ (blanks ++ '(' :: (inside ++ [')']))) clauses
      rw [hsplit] at htext ⊢
      simp only [takeType?, takeRun?_append hword hne (not_isWord_of_mem_head?_bracket hblanks),
        Option.map_some, hskip, htext]

theorem takeColumnType?_append (writes : WritesType type) (follows : FollowsType clauses) :
    takeColumnType? (type ++ clauses) = some (String.ofList type, clauses) := by
  have hskip : skipOptional (fun after => (afterBlanks? after).bind (afterPhrase? ["unsigned"]))
      clauses = clauses := by
    rw [skipOptional, follows.signed, Option.getD_none]
  simp only [takeColumnType?, takeType?_append writes.isTypeText follows, Option.map_some, hskip,
    textBefore_append]

/-- A type begins with a word character. -/
theorem WritesType.exists_cons (writes : WritesType type) :
    ∃ c later, type = c :: later ∧ isWord c = true := by
  cases writes with
  | word hne hword | bracket hne hword =>
      obtain ⟨c, later, rfl⟩ := List.exists_cons_of_ne_nil hne
      exact ⟨c, _, rfl, hword c List.mem_cons_self⟩

theorem readHeader?_toText (isWritable : definition.IsWritable) :
    readHeader? definition.toText.toList =
      some (definition.name, definition.type, clauseChars definition) := by
  have hname : takeName? (definition.name.toList ++
      ' ' :: (definition.type.toList ++ clauseChars definition)) =
      some (definition.name, ' ' :: (definition.type.toList ++ clauseChars definition)) := by
    refine takeName?_append ⟨isWritable.name, [], by simp, [], by simp, by simp⟩ ?_
    rintro c ⟨⟩
    decide
  have hblanks : afterBlanks? (' ' :: (definition.type.toList ++ clauseChars definition)) =
      some (definition.type.toList ++ clauseChars definition) := by
    obtain ⟨c, later, htype, hword⟩ := isWritable.type.exists_cons
    have isGap : IsGap [' '] := ⟨List.cons_ne_nil _ _, by decide +kernel⟩
    refine afterBlanks?_append isGap ?_
    rw [htype]
    rintro d ⟨⟩
    exact not_isBlank_of_isWord hword
  rw [readHeader?, toList_toText, hname]
  simp only [Option.bind_eq_bind, Option.bind_some, hblanks,
    takeColumnType?_append isWritable.type (followsType_clauseChars definition),
    String.ofList_toList]

/-- A definition is read from its own text. -/
theorem readColumn?_toText {hasPrimary : Bool} (isWritable : definition.IsWritable)
    (hprimary : definition.key = .primary → hasPrimary = false) :
    readColumn? none hasPrimary definition.toText.toList = some definition := by
  simp only [readColumn?_eq, readHeader?_toText isWritable, Option.map_some,
    ofClauses_clauseChars isWritable hprimary]

end ColumnDefinition

end MockSql
