/-
# Places of quoted defaults

A quoted default stands in a piece of a body, behind the name, the type and perhaps other clauses of a
column. Every column that is read with such a default has it at a place like this, and whichever text is
put there, the body is cut into the same pieces around it and the column begins in the same way.
-/

import MockSql.Proofs.QuotedTexts

namespace MockSql

open MockSql.Text

namespace ColumnDefinition

theorem intercalate_append_cons (earlier : List (List Char)) (before piece : List Char)
    (later : List (List Char)) : [','].intercalate (earlier ++ (before ++ piece) :: later) =
      [','].intercalate (earlier ++ [before]) ++ [','].intercalate (piece :: later) := by
  induction earlier with
  | nil => cases later <;> simp
  | cons first earlier ih =>
      rw [List.cons_append, List.cons_append, List.intercalate_cons_of_ne_nil (by simp),
        List.intercalate_cons_of_ne_nil (by simp), ih]
      simp only [List.append_assoc]

/-- A place for a quoted text in a body: the pieces before and behind its piece, and what its piece
holds before the text and behind it. -/
structure QuotedPlace where
  earlier : List (List Char)
  before : List Char
  behind : List Char
  later : List (List Char)

namespace QuotedPlace

/-- The piece of the place, with a text at the place. -/
def piece (place : QuotedPlace) (text : List Char) : List Char :=
  place.before ++ quoted text place.behind

/-- The pieces of the body, with a text at the place. -/
def pieces (place : QuotedPlace) (text : List Char) : List (List Char) :=
  place.earlier ++ place.piece text :: place.later

/-- The body with a text at the place. -/
def body (place : QuotedPlace) (text : List Char) : List Char :=
  [','].intercalate (place.pieces text)

/-- What the body holds before the place. -/
def front (place : QuotedPlace) : List Char :=
  [','].intercalate (place.earlier ++ [place.before])

/-- What the body holds behind the place. -/
def back (place : QuotedPlace) : List Char :=
  [','].intercalate (place.behind :: place.later)

variable {place : QuotedPlace} {text other : List Char}

/-- A body is what stands before its quoted text, this text, and what stands behind it. -/
theorem body_eq (place : QuotedPlace) (text : List Char) :
    place.body text = place.front ++ quoted text place.back := by
  have hpiece : place.piece text = place.before ++ quoted text place.behind := rfl
  have hback : [','].intercalate (quoted text place.behind :: place.later) =
      quoted text place.back := by
    have hsplit := intercalate_append_cons [] (quoted text []) place.behind place.later
    simpa [quoted, back] using hsplit
  rw [body, pieces, hpiece, intercalate_append_cons, hback, front]

/-- Another text at the place is cut out with the same piece. -/
theorem cutBody_replace (isQuotable : IsQuotable text) (isQuotable' : IsQuotable other)
    (hcut : cutBody (place.body text) = place.pieces text) :
    cutBody (place.body other) = place.pieces other := by
  have hcloses : ∀ {text : List Char}, IsQuotable text →
      closesNext (quoted text place.back) = closesNext place.back := by
    intro text isQuotable
    rw [quoted_eq_append, closesNext_uncut isQuotable.isUncut_quoted]
  have hpieces : ∀ {text : List Char}, IsQuotable text →
      cutBody (quoted text place.back) = prepend (quoted text []) (cutBody place.back) := by
    intro text isQuotable
    rw [quoted_eq_append, cutBody_uncut isQuotable.isUncut_quoted]
  rw [body_eq, pieces, piece] at hcut ⊢
  obtain ⟨hrest, hreplace⟩ := cutBody_front (rfl : _ = place.front) hcut
  rw [hpieces isQuotable] at hrest
  obtain ⟨behind, hbehind, hback⟩ := prepend_eq_cons (cutBody_ne_nil _) hrest
  obtain rfl : place.behind = behind := by
    rw [quoted_eq_append] at hbehind
    exact List.append_cancel_left hbehind
  refine hreplace ((hcloses isQuotable').trans (hcloses isQuotable).symm) ?_
  rw [hpieces isQuotable', hback, prepend_cons, ← quoted_eq_append]

variable {name type : String}

theorem trim_piece (place : QuotedPlace) (text : List Char) : trim (place.piece text) =
    trimStart place.before ++ quoted text (trimEnd place.behind) := by
  have hstart : List.dropWhile isBlank (place.before ++ quoted text place.behind) =
      trimStart place.before ++ quoted text place.behind := trimStart_stop isStop_quote _
  rw [trim, stripWhile, piece, hstart, quoted, dropWhileEnd_append_stop (by decide),
    dropWhileEnd_append_stop (by decide)]
  rfl

/-- With a text, a place is in the quotes of the default of a column. -/
structure HoldsDefault (place : QuotedPlace) (text : List Char) (name type : String) : Prop where
  cut : cutBody (place.body text) = place.pieces text
  column : isTableClause (trim (place.piece text)) = false
  clauses : ∃ opening, readHeader? (trim (place.piece text)) =
    some (name, type, opening ++ quoted text (trimEnd place.behind)) ∧
      findWord? afterDefault? opening = some []

/-- The text does not decide whether the piece is a column. -/
theorem isTableClause_piece (place : QuotedPlace) (text other : List Char) :
    isTableClause (trim (place.piece text)) = isTableClause (trim (place.piece other)) := by
  rw [trim_piece, trim_piece, quoted, quoted, isTableClause_stop isStop_quote (by decide),
    isTableClause_stop isStop_quote (by decide)]

theorem readHeader?_piece {opening : List Char} (isQuotable : IsQuotable text)
    (isQuotable' : IsQuotable other)
    (hheader : readHeader? (trim (place.piece text)) =
      some (name, type, opening ++ quoted text (trimEnd place.behind))) :
    readHeader? (trim (place.piece other)) =
      some (name, type, opening ++ quoted other (trimEnd place.behind)) := by
  rw [trim_piece] at hheader ⊢
  exact readHeader?_quoted isQuotable isQuotable' hheader

/-- If the place holds a default with one text, then it does with any other. -/
theorem HoldsDefault.replace (isQuotable : IsQuotable text) (isQuotable' : IsQuotable other)
    (holds : place.HoldsDefault text name type) : place.HoldsDefault other name type := by
  obtain ⟨opening, hheader, hopening⟩ := holds.clauses
  exact ⟨cutBody_replace isQuotable isQuotable' holds.cut,
    (isTableClause_piece place other text).trans holds.column,
    opening, readHeader?_piece isQuotable isQuotable' hheader, hopening⟩

/-- A piece of a body, with the pieces before and behind it, is read as a column whose default is a quoted
text. -/
structure ReadsDefault (body : List Char) (earlier : List (List Char)) (piece : List Char)
    (later : List (List Char)) (text : List Char) (name type : String) : Prop where
  cut : cutBody body = earlier ++ piece :: later
  column : isTableClause (trim piece) = false
  clauses : ∃ clauses, readHeader? (trim piece) = some (name, type, clauses) ∧
    findWord? defaultAt? clauses = some (text, true)

/-- Every column that is read with a quoted default has it at a place of its body. -/
theorem ReadsDefault.exists_place {body piece : List Char} {earlier later : List (List Char)}
    (reads : ReadsDefault body earlier piece later text name type) :
    ∃ place : QuotedPlace, place.earlier = earlier ∧ place.piece text = piece ∧
      place.later = later ∧ place.body text = body ∧ place.HoldsDefault text name type := by
  obtain ⟨hcut, hcolumn, clauses, hheader, hdefault⟩ := reads
  obtain ⟨opening, back, rfl, -, hopening⟩ := findFrom?_defaultAt? hdefault
  obtain ⟨front, hfront⟩ := readHeader?_suffix hheader
  obtain ⟨lead, trail, houter, hpiece⟩ := exists_stripWhile isBlank piece
  let place : QuotedPlace := ⟨earlier, lead ++ (front ++ opening), back ++ trail, later⟩
  have hplace : place.piece text = piece := by
    rw [hpiece, ← trim, ← hfront]
    simp [place, QuotedPlace.piece, quoted]
  have hbody : place.body text = body := by
    rw [QuotedPlace.body, pieces, hplace, ← hcut, intercalate_cutBody]
  refine ⟨place, rfl, hplace, rfl, hbody, ?_, ?_, ?_⟩
  · rw [hbody, hcut, pieces, hplace]
  · rwa [hplace]
  · have hlast : ∀ c ∈ back.getLast?, isBlank c = false := by
      intro c hc
      have hsplit : trim piece = (front ++ (opening ++ quoted text [])) ++ back := by
        rw [← hfront, quoted_eq_append, List.append_assoc, List.append_assoc]
      have hend : c ∈ (trim piece).getLast? := by
        rw [hsplit]
        exact getLast?_append_of_eq_some _ hc
      exact getLast?_rdropWhile isBlank _ c hend
    have hbehind : trimEnd place.behind = back := by
      have htrail : ∀ c ∈ trail, isBlank c = true :=
        fun c hc => houter c (List.mem_append_right lead hc)
      exact (dropWhileEnd_append_outer htrail back).trans (rdropWhile_eq_self hlast)
    rw [hplace, hbehind]
    exact ⟨opening, hheader, hopening⟩

end QuotedPlace

end ColumnDefinition

end MockSql
