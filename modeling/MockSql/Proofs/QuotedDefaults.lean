/-
# Quoted defaults

The text of a quoted default is part of the clauses of its column, and clauses are looked for anywhere in
them. So the text is a clause too where it says one: that the column has a value, that it is a key, or
that it is numbered. Nothing else in a text without quotes, commas and parentheses is seen: two such texts
with the same ones of these phrases give the same columns, except for the default itself.
-/

import MockSql.Proofs.QuotedPlaces
import MockSql.Proofs.TableClauses

namespace MockSql

open MockSql.Text

namespace ColumnDefinition

/-- The phrases that are clauses wherever they stand behind the type of a column. -/
def clausePhrases : List (List String) :=
  [["not", "null"], ["unique"], ["primary", "key"], ["auto_increment"]]

theorem areKeywords_clausePhrases : ∀ phrase ∈ clausePhrases, ∀ word ∈ phrase, IsPhraseWord word := by
  decide

variable {name type : String} {text other opening back : List Char}

/-- Two texts that say the same clauses, as the default of a column, give columns that differ in their
defaults. -/
theorem ofClauses_quoted {primaryName primaryName' : Option String} {hasPrimary : Bool}
    (isQuotable : IsQuotable text) (isQuotable' : IsQuotable other)
    (hopening : findWord? afterDefault? opening = some [])
    (hname : (some name == primaryName) = (some name == primaryName'))
    (hphrases : ∀ phrase ∈ clausePhrases, hasPhrase phrase other = hasPhrase phrase text) :
    ofClauses primaryName' hasPrimary name type (opening ++ quoted other back) =
      withDefault other (ofClauses primaryName hasPrimary name type (opening ++ quoted text back)) := by
  have hphrase : ∀ {word : String} {words : List String}, word :: words ∈ clausePhrases →
      hasPhrase (word :: words) (opening ++ quoted other back) =
        hasPhrase (word :: words) (opening ++ quoted text back) := by
    intro word words hmem
    rw [hasPhrase_quoted (areKeywords_clausePhrases _ hmem),
      hasPhrase_quoted (areKeywords_clausePhrases _ hmem), hphrases _ hmem]
  have hreference : ∀ {text : List Char}, IsQuotable text →
      reference? (opening ++ quoted text back) = (reference? opening).or (reference? back) := by
    intro text isQuotable
    rw [quoted, reference?_stop isStop_quote (by decide), reference?_stop isStop_quote (by decide),
      reference?_eq_none isQuotable.not_mem_opening, Option.none_or]
  simp only [ofClauses, withDefault, hname, hphrase (show ["not", "null"] ∈ clausePhrases by decide),
    hphrase (show ["unique"] ∈ clausePhrases by decide),
    hphrase (show ["primary", "key"] ∈ clausePhrases by decide),
    hphrase (show ["auto_increment"] ∈ clausePhrases by decide), hreference isQuotable,
    hreference isQuotable', default?_quoted hopening isQuotable'.not_mem_quote]

namespace QuotedPlace

variable {place : QuotedPlace} {name type : String} {text other : List Char}

/-- The columns that are read before that of the place. -/
def columnsBefore (place : QuotedPlace) (primaryName : Option String) : List ColumnDefinition :=
  (columnsOf place.earlier).foldl (addFragment primaryName) []

/-- The column of the place, as it is read from its clauses. -/
def column (place : QuotedPlace) (primaryName : Option String) (name type : String)
    (opening text : List Char) : ColumnDefinition :=
  ofClauses primaryName (haveKey (place.columnsBefore primaryName)) name type
    (opening ++ quoted text (trimEnd place.behind))

/-- All columns that are read, with a given one for that of the place. -/
def columnsAround (place : QuotedPlace) (primaryName : Option String) (column : ColumnDefinition) :
    List ColumnDefinition :=
  (columnsOf place.later).foldl (addFragment primaryName) (place.columnsBefore primaryName ++ [column])

/-- The table-level clauses of the body. -/
def tableClauses (place : QuotedPlace) : List (List Char) :=
  clausesOf place.earlier ++ clausesOf place.later

variable {primaryName : Option String} {opening : List Char}

theorem getElem?_columnsAround (place : QuotedPlace) (primaryName : Option String)
    (column : ColumnDefinition) : (place.columnsAround primaryName column)[
      (place.columnsBefore primaryName).length]? = some column := by
  obtain ⟨later, hlater⟩ := isPrefix_foldl_addFragment primaryName (columnsOf place.later)
    (place.columnsBefore primaryName ++ [column])
  rw [columnsAround, ← hlater]
  simp

theorem haveKey_columnsAround {column : ColumnDefinition}
    (hkey : haveKey (place.columnsBefore primaryName) = false → column.key = .primary) :
    haveKey (place.columnsAround primaryName column) = true := by
  obtain ⟨later, hlater⟩ := isPrefix_foldl_addFragment primaryName (columnsOf place.later)
    (place.columnsBefore primaryName ++ [column])
  rw [columnsAround, ← hlater, haveKey, List.any_append, List.any_append]
  cases hfirst : haveKey (place.columnsBefore primaryName) with
  | true =>
      rw [haveKey] at hfirst
      rw [hfirst, Bool.true_or, Bool.true_or]
  | false => simp [hkey hfirst]

theorem columnsAround_withDefault (place : QuotedPlace) (primaryName : Option String)
    (column : ColumnDefinition) (text : List Char) :
    place.columnsAround primaryName (withDefault text column) =
      (place.columnsAround primaryName column).modify (place.columnsBefore primaryName).length
        (withDefault text) := by
  have hkey : ∀ column : ColumnDefinition, (withDefault text column).key = column.key :=
    fun _ => rfl
  have hmodify : ∀ first : List ColumnDefinition,
      first ++ [withDefault text column] = (first ++ [column]).modify first.length (withDefault text) := by
    intro first
    induction first with
    | nil => rfl
    | cons head first ih => simpa using ih
  rw [columnsAround, hmodify, foldl_addFragment_modify hkey (by simp), columnsAround]

theorem fragmentsOf_pieces (place : QuotedPlace) (text : List Char) : fragmentsOf (place.pieces text) =
    fragmentsOf place.earlier ++ trim (place.piece text) :: fragmentsOf place.later := by
  have hnonempty : (!(trim (place.piece text)).isEmpty) = true := by
    rw [trim_piece]
    simp [quoted]
  rw [fragmentsOf, pieces, List.map_append, List.map_cons, List.filter_append,
    @List.filter_cons_of_pos (List Char) (!·.isEmpty) _ _ hnonempty]
  rfl

theorem HoldsDefault.columnsOf_pieces (holds : place.HoldsDefault text name type) :
    columnsOf (place.pieces text) =
      columnsOf place.earlier ++ trim (place.piece text) :: columnsOf place.later := by
  rw [columnsOf, fragmentsOf_pieces, List.filter_append,
    List.filter_cons_of_pos (by simp [holds.column])]
  rfl

theorem HoldsDefault.clausesOf_pieces (holds : place.HoldsDefault text name type) :
    clausesOf (place.pieces text) = place.tableClauses := by
  rw [clausesOf, fragmentsOf_pieces, List.filter_append,
    List.filter_cons_of_neg (by simp [holds.column])]
  rfl

/-- A body with a quoted default is read as the columns around it, that of the default among them, to
which the table-level clauses are applied. -/
theorem HoldsDefault.readBody_eq (holds : place.HoldsDefault text name type)
    (hheader : readHeader? (trim (place.piece text)) =
      some (name, type, opening ++ quoted text (trimEnd place.behind)))
    (hprimary : ∀ name : String, '\x27' ∉ name.toList →
      (some name == primaryName? (place.body text)) = (some name == primaryName)) :
    readBody (place.body text) = place.tableClauses.foldl addClause
      (place.columnsAround primaryName (place.column primaryName name type opening text)) := by
  have hadd : addFragment (primaryName? (place.body text)) = addFragment primaryName :=
    addFragment_congr hprimary
  have hread : addFragment primaryName (place.columnsBefore primaryName) (trim (place.piece text)) =
      place.columnsBefore primaryName ++ [place.column primaryName name type opening text] := by
    rw [addFragment, readColumn?_eq, hheader]
    rfl
  rw [ColumnDefinition.readBody_eq, holds.cut, holds.clausesOf_pieces, holds.columnsOf_pieces, hadd,
    columnsAround, ← hread]
  congr 1
  rw [List.foldl_append, List.foldl_cons, columnsBefore]

/-- Whatever a quoted default says, the columns have the names and the types that they have with any
other. -/
theorem HoldsDefault.map_header_readBody (isQuotable : IsQuotable text) (isQuotable' : IsQuotable other)
    (holds : place.HoldsDefault text name type) :
    (readBody (place.body other)).map header = (readBody (place.body text)).map header := by
  obtain ⟨opening, hheader, -⟩ := holds.clauses
  have hheader' := readHeader?_piece isQuotable isQuotable' hheader
  have holds' := holds.replace isQuotable isQuotable'
  rw [ColumnDefinition.map_header_readBody, ColumnDefinition.map_header_readBody, holds.cut, holds'.cut,
    holds.columnsOf_pieces, holds'.columnsOf_pieces, List.filterMap_append, List.filterMap_append]
  simp [hheader, hheader']

/-- If two texts say the same of the phrases of clauses, then the columns differ in the default alone. -/
theorem HoldsDefault.readBody_replace (isQuotable : IsQuotable text) (isQuotable' : IsQuotable other)
    (holds : place.HoldsDefault text name type)
    (hphrases : ∀ phrase ∈ clausePhrases, hasPhrase phrase other = hasPhrase phrase text) :
    readBody (place.body other) = (readBody (place.body text)).modify
      (place.columnsBefore (primaryName? (place.body text))).length (withDefault other) := by
  obtain ⟨opening, hheader, hopening⟩ := holds.clauses
  have hprimary : ∀ name : String, '\x27' ∉ name.toList →
      (some name == primaryName? (place.body other)) =
        (some name == primaryName? (place.body text)) := by
    intro name hname
    rw [body_eq, body_eq]
    exact primaryName?_quoted hname isQuotable' isQuotable place.front place.back
  have hcolumn : place.column (primaryName? (place.body text)) name type opening other =
      withDefault other (place.column (primaryName? (place.body text)) name type opening text) :=
    ofClauses_quoted isQuotable isQuotable' hopening rfl hphrases
  rw [(holds.replace isQuotable isQuotable').readBody_eq
    (readHeader?_piece isQuotable isQuotable' hheader) hprimary, hcolumn, columnsAround_withDefault,
    foldl_addClause_withDefault, holds.readBody_eq hheader fun _ _ => rfl]

/-- What a quoted default does to a body. Every column that is read with one has it at a place of its body.
Whatever stands there, the columns have the names and the types that they have with any other text. What it
says of the phrases of clauses is a clause of its column; and if another text says the same of these
phrases, then the columns differ in this default alone. -/
theorem readBody_of_quoted_default (isQuotable : IsQuotable text) :
    (∀ {body piece : List Char} {earlier later : List (List Char)} {name type : String},
      ReadsDefault body earlier piece later text name type →
        ∃ place : QuotedPlace, place.earlier = earlier ∧ place.piece text = piece ∧
          place.later = later ∧ place.body text = body ∧ place.HoldsDefault text name type) ∧
    ∀ {place : QuotedPlace} {name type : String}, place.HoldsDefault text name type →
      ∃ index column, (readBody (place.body text))[index]? = some column ∧
        column.name = name ∧ column.type = type ∧ column.default = some (String.ofList text) ∧
        (∀ other, IsQuotable other →
          (readBody (place.body other)).map header = (readBody (place.body text)).map header ∧
          ((∀ phrase ∈ clausePhrases, hasPhrase phrase other = hasPhrase phrase text) →
            readBody (place.body other) =
              (readBody (place.body text)).modify index (withDefault other))) ∧
        (hasPhrase ["not", "null"] text = true → column.nullable = false) ∧
        (hasPhrase ["auto_increment"] text = true → column.autoIncrement = true) ∧
        (hasPhrase ["unique"] text = true → column.key ≠ .none) ∧
        (hasPhrase ["primary", "key"] text = true → haveKey (readBody (place.body text)) = true) := by
  refine ⟨ReadsDefault.exists_place, ?_⟩
  intro place name type holds
  obtain ⟨opening, hheader, hopening⟩ := holds.clauses
  have hread := holds.readBody_eq hheader fun _ _ => rfl
  obtain ⟨column, hcolumn, keeps⟩ := getElem?_keeps (foldl_addClause_keeps place.tableClauses _)
    (getElem?_columnsAround place (primaryName? (place.body text))
      (place.column (primaryName? (place.body text)) name type opening text))
  rw [← hread] at hcolumn
  have hdefault : default? (opening ++ quoted text (trimEnd place.behind)) =
      some (String.ofList text) := default?_quoted hopening isQuotable.not_mem_quote
  have hphrase : ∀ {word : String} {words : List String}, word :: words ∈ clausePhrases →
      hasPhrase (word :: words) text = true →
        hasPhrase (word :: words) (opening ++ quoted text (trimEnd place.behind)) = true := by
    intro word words hmem htext
    rw [hasPhrase_quoted (areKeywords_clausePhrases _ hmem), htext, Bool.true_or, Bool.or_true]
  refine ⟨_, column, hcolumn, keeps.name, keeps.type, keeps.default.trans hdefault, ?_, ?_, ?_, ?_, ?_⟩
  · intro other isQuotable'
    exact ⟨holds.map_header_readBody isQuotable isQuotable',
      holds.readBody_replace isQuotable isQuotable'⟩
  · intro htext
    rw [keeps.nullable, QuotedPlace.column, ofClauses, hphrase (by decide) htext, Bool.not_true]
  · intro htext
    rw [keeps.autoIncrement, QuotedPlace.column, ofClauses, hphrase (by decide) htext]
  · intro htext
    refine keeps.key ?_
    rw [QuotedPlace.column, ofClauses, hphrase (show ["unique"] ∈ clausePhrases by decide) htext]
    simp only [if_true]
    split <;> simp
  · intro htext
    rw [hread, haveKey_foldl_addClause]
    refine haveKey_columnsAround ?_
    intro hfirst
    rw [QuotedPlace.column, ofClauses, hphrase (by decide) htext, hfirst]
    simp

/-- The default of the state of an order, in a table with a numbered key and an index. -/
def statePlace : QuotedPlace where
  earlier := ["id int PRIMARY KEY AUTO_INCREMENT".toList]
  before := " state varchar(20) DEFAULT ".toList
  behind := []
  later := [" KEY by_state (state)".toList]

theorem statePlace_holdsDefault :
    statePlace.HoldsDefault "open".toList "state" "varchar(20)" where
  cut := by decide +kernel
  column := by decide +kernel
  clauses := ⟨" DEFAULT ".toList, by decide +kernel, by decide +kernel⟩

theorem statePlace_readsDefault : ReadsDefault (statePlace.body "open".toList) statePlace.earlier
    (statePlace.piece "open".toList) statePlace.later "open".toList "state" "varchar(20)" where
  cut := by decide +kernel
  column := by decide +kernel
  clauses := ⟨" DEFAULT 'open'".toList, by decide +kernel, by decide +kernel⟩

theorem closed_replaces_open : IsQuotable "open".toList ∧
    ReadsDefault (statePlace.body "open".toList) statePlace.earlier
      (statePlace.piece "open".toList) statePlace.later "open".toList "state" "varchar(20)" ∧
    (∃ place : QuotedPlace, place.body "open".toList = statePlace.body "open".toList ∧
      place.HoldsDefault "open".toList "state" "varchar(20)") ∧
    statePlace.HoldsDefault "open".toList "state" "varchar(20)" ∧
    ∃ index, readBody (statePlace.body "closed".toList) =
      (readBody (statePlace.body "open".toList)).modify index (withDefault "closed".toList) := by
  have isQuotable : IsQuotable "open".toList := by decide +kernel
  have isQuotable' : IsQuotable "closed".toList := by decide +kernel
  obtain ⟨hplace, hread⟩ := readBody_of_quoted_default isQuotable
  obtain ⟨place, -, -, -, hbody, holds⟩ := hplace statePlace_readsDefault
  obtain ⟨index, -, -, -, -, -, hother, -⟩ := hread statePlace_holdsDefault
  exact ⟨isQuotable, statePlace_readsDefault, ⟨place, hbody, holds⟩, statePlace_holdsDefault, index,
    (hother _ isQuotable').2 (by decide +kernel)⟩

/-- The word for a key, as a default, makes its column one. -/
theorem unique_does_not_replace_open : IsQuotable "open".toList ∧ IsQuotable "unique".toList ∧
    statePlace.HoldsDefault "open".toList "state" "varchar(20)" ∧
    ∀ index, readBody (statePlace.body "unique".toList) ≠
      (readBody (statePlace.body "open".toList)).modify index (withDefault "unique".toList) := by
  refine ⟨by decide +kernel, by decide +kernel, statePlace_holdsDefault, fun index hsame => ?_⟩
  have hkey : (readBody (statePlace.body "open".toList)).any (·.key == .unique) =
      (readBody (statePlace.body "unique".toList)).any (·.key == .unique) := by
    have hwithDefault : ∀ column : ColumnDefinition,
        ((withDefault "unique".toList column).key == .unique) = (column.key == .unique) :=
      fun _ => rfl
    rw [hsame, any_modify hwithDefault]
  have hopen : (readBody (statePlace.body "open".toList)).any (·.key == .unique) = false := by
    decide +kernel
  have hunique : (readBody (statePlace.body "unique".toList)).any (·.key == .unique) = true := by
    decide +kernel
  rw [hopen, hunique] at hkey
  cases hkey

end QuotedPlace

end ColumnDefinition

end MockSql
