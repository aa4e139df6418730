/-
# Ids of a deletion

The list of a deletion is cut at every comma, before anything is known about quotes. An integer and a
text without a comma are one piece each and give the integer that they begin with, if they begin with
one. A text with commas is cut: its first piece keeps the opening quote and gives nothing, and each of
the others gives an integer of its own.
-/

import MockSql.Proofs.Dispatch
import MockSql.Proofs.Names
import MockSql.Proofs.Recognisers

namespace MockSql

open MockSql.Text MockSql.Literal MockSql.Number

namespace Literal

variable {text tail : List Char}

/-- A character that belongs neither to an integer nor to its sign. -/
def isInert (c : Char) : Bool :=
  !isDigit c && c != '-' && c != '+'

theorem isInert_of_isBlank {c : Char} (hblank : isBlank c = true) : isInert c = true := by
  have hcodes : ∀ code ∈ blankCodes, isInert (Char.ofNat code) = true := by decide +kernel
  simpa using hcodes c.toNat (mem_blankCodes_of_isBlank hblank)

theorem isInert_of_isQuote {c : Char} (hquote : isQuote c = true) : isInert c = true := by
  have hquotes : ∀ c ∈ [singleQuote, doubleQuote], isInert c = true :=
    forall_mem_of_all (by decide +kernel)
  exact hquotes c (by simpa [isQuote] using hquote)

theorem ne_of_isInert {c : Char} (inert : isInert c = true) :
    isDigit c = false ∧ c ≠ '-' ∧ c ≠ '+' := by
  simpa [isInert, and_assoc] using inert

/-- No integer begins with such a character. -/
theorem leadingInt_of_inert (hfirst : ∀ c ∈ (trimStart text).head?, isInert c = true) :
    leadingInt text = .ok none := by
  cases hstart : trimStart text with
  | nil =>
      rw [leadingInt, hstart]
      rfl
  | cons c rest =>
      obtain ⟨hdigit, hminus, hplus⟩ := ne_of_isInert (hfirst c (by rw [hstart]; rfl))
      have hsign : takeSign (c :: rest) = (false, c :: rest) := by simp [takeSign, hminus, hplus]
      simp [leadingInt, hstart, hsign, hdigit]

/-- Such characters behind a text do not change the integer that it begins with. -/
theorem leadingInt_append (text : List Char) (inert : ∀ c ∈ tail, isInert c = true) :
    leadingInt (text ++ tail) = leadingInt text := by
  have hdropped : trimStart (text ++ tail) =
      if (trimStart text).isEmpty then trimStart tail else trimStart text ++ tail :=
    List.dropWhile_append
  cases hstart : trimStart text with
  | nil =>
      rw [hstart, List.isEmpty_nil, if_pos rfl] at hdropped
      rw [@leadingInt_of_inert text (by simp [hstart]), leadingInt_of_inert]
      intro c hc
      rw [hdropped] at hc
      exact inert c ((List.dropWhile_suffix isBlank).mem (List.mem_of_mem_head? hc))
  | cons c rest =>
      have hstill : trimStart (text ++ tail) = c :: (rest ++ tail) := by
        simpa [hstart] using hdropped
      have hsign : takeSign (c :: (rest ++ tail)) =
          ((takeSign (c :: rest)).1, (takeSign (c :: rest)).2 ++ tail) := by
        by_cases hminus : c = '-'
        · simp [takeSign, hminus]
        · by_cases hplus : c = '+' <;> simp [takeSign, hminus, hplus]
      have hdigits (unsigned : List Char) :
          (unsigned ++ tail).takeWhile isDigit = unsigned.takeWhile isDigit := by
        have htail : tail.takeWhile isDigit = [] := by
          cases tail with
          | nil => rfl
          | cons d later => simp [(ne_of_isInert (inert d List.mem_cons_self)).1]
        rw [List.takeWhile_append, htail]
        split
        next hall =>
          rw [List.append_nil]
          exact ((List.takeWhile_prefix isDigit).eq_of_length hall).symm
        next => rfl
      simp only [leadingInt, hstart, hstill, hsign, hdigits]

/-- White space around a text does not change the integer that it begins with. -/
theorem leadingInt_trim (text : List Char) : leadingInt (trim text) = leadingInt text := by
  obtain ⟨before, after, hblank, htext⟩ := exists_stripWhile isBlank text
  have hbefore : ∀ rest, leadingInt (before ++ rest) = leadingInt rest := by
    intro rest
    have hskip : trimStart (before ++ rest) = trimStart rest :=
      List.dropWhile_append_of_pos fun c hc => hblank c (List.mem_append_left _ hc)
    rw [leadingInt, hskip, leadingInt]
  have hafter : ∀ c ∈ after, isInert c = true :=
    fun c hc => isInert_of_isBlank (hblank c (List.mem_append_right _ hc))
  calc leadingInt (trim text) = leadingInt (before ++ trim text ++ after) := by
        rw [leadingInt_append _ hafter, hbefore]
    _ = leadingInt text := congrArg leadingInt htext.symm

theorem countP_isQuote (hplain : ∀ c ∈ text, isQuote c = false) : text.countP isQuote = 0 :=
  List.countP_eq_zero.mpr fun c hc => by simp [hplain c hc]

/-- A text with less than two quotes in it is not in quotes. -/
theorem unquote_of_countP_le_one (hcount : text.countP isQuote ≤ 1) :
    unquote text = (trim text, false) := by
  have htrim : (trim text).countP isQuote ≤ 1 :=
    Nat.le_trans (stripWhile_sublist isBlank text).countP_le hcount
  unfold unquote
  split
  next hnil => rw [hnil]
  next first rest hcons =>
    rw [if_neg, hcons]
    intro hquoted
    obtain ⟨hfirst, hlast⟩ := Bool.and_eq_true_iff.mp hquoted
    have hmem : first ∈ rest := List.mem_of_getLast? (beq_iff_eq.mp hlast)
    have hrest : 0 < rest.countP isQuote := List.countP_pos_iff.mpr ⟨first, hmem, hfirst⟩
    rw [hcons, List.countP_cons_of_pos hfirst] at htrim
    omega

/-- Such a piece of a list gives the integer that it begins with. -/
theorem leadingInt_unquote (hcount : text.countP isQuote ≤ 1) :
    leadingInt (unquote text).1 = leadingInt text := by
  rw [unquote_of_countP_le_one hcount, leadingInt_trim]

/-- The integers that the pieces of a list between its commas are read as. -/
def idsWith (read : List Char → Except Fault (Option Int)) (list : List Char) :
    Except Fault (List Int) := do
  let ids ← (list.splitOn ',').mapM read
  .ok (ids.filterMap id)

variable {read : List Char → Except Fault (Option Int)}

theorem idsWith_piece {piece : List Char} (hfree : ',' ∉ piece) :
    idsWith read piece = (read piece).map Option.toList := by
  rw [idsWith, List.splitOn_eq_singleton hfree, List.mapM_cons]
  rcases read piece with fault | (_ | n) <;> rfl

/-- A list is read in two parts if it is cut at a comma. -/
theorem idsWith_cut (first rest : List Char) :
    idsWith read (first ++ ',' :: rest) = (do
      let ids ← idsWith read first
      let others ← idsWith read rest
      .ok (ids ++ others)) := by
  rw [idsWith, List.splitOn_append_cons_self, List.mapM_append, idsWith, idsWith]
  cases (first.splitOn ',').mapM read with
  | error fault => rfl
  | ok ids =>
      cases (rest.splitOn ',').mapM read with
      | error fault => rfl
      | ok others => exact congrArg Except.ok List.filterMap_append

end Literal

namespace Shape

theorem readIds_eq (list : List Char) :
    readIds list = idsWith (fun item => leadingInt (unquote item).1) list :=
  rfl

/-- White space in front of a list does not matter. -/
theorem readIds_space (list : List Char) : readIds (' ' :: list) = readIds list := by
  have hpiece {piece : List Char} (hfree : ',' ∉ piece) :
      readIds (' ' :: piece) = readIds piece := by
    have hspace : ∀ c ∈ [' '], isBlank c = true := forall_mem_of_all (by decide +kernel)
    have htrim : trim (' ' :: piece) = trim piece := stripWhile_append hspace piece
    rw [readIds_eq, readIds_eq, idsWith_piece hfree, idsWith_piece (by simpa using hfree), unquote,
      htrim, ← unquote]
  by_cases hcomma : ',' ∈ list
  · obtain ⟨piece, later, rfl, hfree⟩ := List.eq_append_cons_of_mem hcomma
    have hfirst := hpiece hfree
    rw [readIds_eq, readIds_eq] at hfirst
    rw [readIds_eq, readIds_eq, ← List.cons_append, idsWith_cut, idsWith_cut, hfirst]
  · exact hpiece hcomma

/-- A list is read as what its items are. -/
theorem readIds_commaList (items : List (List Char)) :
    readIds (commaList items) = (items.mapM readIds).map List.flatten := by
  induction items with
  | nil => rfl
  | cons item rest ih =>
      rw [List.mapM_cons]
      cases rest with
      | nil =>
          rw [commaList_singleton]
          cases readIds item with
          | error fault => rfl
          | ok ids => exact congrArg Except.ok (List.append_nil ids).symm
      | cons next later =>
          rw [commaList_cons_cons, readIds_eq, idsWith_cut, ← readIds_eq, ← readIds_eq,
            readIds_space, ih]
          cases readIds item with
          | error fault => rfl
          | ok ids => cases (next :: later).mapM readIds <;> rfl

/-- The last piece of a text keeps the closing quote and gives the integer that it begins with. -/
theorem readIds_closing {text : List Char} (hplain : ∀ c ∈ text, isQuote c = false) :
    readIds (text ++ [singleQuote]) = idsWith leadingInt text := by
  induction text using @cut_induction ',' with
  | last piece hfree =>
      have hcount : (piece ++ [singleQuote]).countP isQuote ≤ 1 := by
        rw [List.countP_append, countP_isQuote hplain]
        decide
      have hinert : ∀ c ∈ [singleQuote], isInert c = true :=
        fun c hc => isInert_of_isQuote (by rw [List.mem_singleton.mp hc]; decide)
      rw [readIds_eq, idsWith_piece (by simpa using ⟨hfree, by decide⟩), idsWith_piece hfree,
        leadingInt_unquote hcount, leadingInt_append piece hinert]
  | cut piece later hfree ih =>
      obtain ⟨hpiece, hlater⟩ := List.forall_mem_append.mp hplain
      have hcount : piece.countP isQuote ≤ 1 := by
        rw [countP_isQuote hpiece]
        decide
      rw [readIds_eq, List.append_assoc, List.cons_append, idsWith_cut, ← readIds_eq, ← readIds_eq,
        ih (fun c hc => hlater c (List.mem_cons_of_mem _ hc)), idsWith_cut, readIds_eq,
        idsWith_piece hfree, idsWith_piece hfree, leadingInt_unquote hcount]

end Shape

namespace Literal

/-- The ids that a literal in the list of a deletion is read as: an integer as itself, and a text as
the integer that it begins with, but if there is a comma in it as the integers that the pieces behind
its first comma begin with. -/
def Spelling.ids : Spelling → Except Fault (List Int)
  | nothing => .ok []
  | integer n _ => .ok [n]
  | text s =>
    if ',' ∈ s.toList then idsWith leadingInt (s.toList.dropWhile (· != ',')).tail
    else (leadingInt s.toList).map Option.toList

/-- The integer that a literal begins with. -/
def Spelling.leading : Spelling → Except Fault (Option Int)
  | nothing => .ok none
  | integer n _ => .ok (some n)
  | text s => leadingInt s.toList

theorem doubleQuotes_eq_self {text : List Char} (hplain : ∀ c ∈ text, isQuote c = false) :
    doubleQuotes text = text := by
  rw [doubleQuotes, List.flatMap_congr (g := fun c => [c]) fun c hc => if_neg ?_]
  · exact List.flatMap_singleton' text
  · rintro rfl
    exact absurd (hplain _ hc) (by decide)

/-- A literal by itself is read as its ids. -/
theorem readIds_write {spelling : Spelling}
    (hplain : ∀ s, spelling = .text s → ∀ c ∈ s.toList, isQuote c = false) :
    Shape.readIds spelling.write = spelling.ids := by
  cases spelling with
  | nothing => decide +kernel
  | integer n printable =>
      have hchars : ∀ c ∈ numeralChars, c ≠ ',' ∧ isQuote c = false :=
        forall_mem_of_all (by decide)
      have hfree : ',' ∉ intDigits n := fun h => (hchars _ (mem_numeralChars h)).1 rfl
      have hcount : (intDigits n).countP isQuote ≤ 1 := by
        rw [countP_isQuote fun c hc => (hchars c (mem_numeralChars hc)).2]
        decide
      rw [Spelling.write, Shape.readIds_eq, idsWith_piece hfree, leadingInt_unquote hcount,
        leadingInt_intDigits printable]
      rfl
  | text s =>
      have htext := hplain s rfl
      have hwrite : Spelling.write (.text s) = singleQuote :: (s.toList ++ [singleQuote]) := by
        rw [Spelling.write, doubleQuotes_eq_self htext]
      by_cases hcomma : ',' ∈ s.toList
      · obtain ⟨piece, later, hsplit, hfree⟩ := List.eq_append_cons_of_mem hcomma
        rw [hsplit] at htext
        obtain ⟨hpiece, hlater⟩ := List.forall_mem_append.mp htext
        have hcount : (singleQuote :: piece).countP isQuote ≤ 1 := by
          rw [List.countP_cons, countP_isQuote hpiece]
          decide
        have hopening : leadingInt (singleQuote :: piece) = .ok none := by
          have hstart : trimStart (singleQuote :: piece) = singleQuote :: piece :=
            List.dropWhile_cons_of_neg (by decide +kernel)
          refine leadingInt_of_inert fun c hc => isInert_of_isQuote ?_
          rw [hstart] at hc
          cases hc
          decide
        have hbehind : (s.toList.dropWhile (· != ',')).tail = later := by
          rw [hsplit, dropWhile_run (forall_bne_of_not_mem hfree) (bne_self_eq_false ','),
            List.tail_cons]
        rw [hwrite, Spelling.ids, if_pos hcomma, hbehind, hsplit, List.append_assoc,
          List.cons_append, ← List.cons_append, Shape.readIds_eq, idsWith_cut, ← Shape.readIds_eq,
          ← Shape.readIds_eq, Shape.readIds_closing fun c hc => hlater c (List.mem_cons_of_mem _ hc),
          Shape.readIds_eq, idsWith_piece (by simpa using ⟨by decide, hfree⟩),
          leadingInt_unquote hcount, hopening]
        cases idsWith leadingInt later <;> rfl
      · have hfree : ',' ∉ Spelling.write (.text s) := by
          rw [hwrite]
          simpa using ⟨by decide, hcomma, by decide⟩
        have hunquote := Spelling.unquote_text [] (by simp) s
        rw [List.nil_append] at hunquote
        rw [Spelling.ids, if_neg hcomma, Shape.readIds_eq, idsWith_piece hfree, hunquote]

/-- A list of literals is read as the ids of each. -/
theorem readIds_valueList {spellings : List Spelling}
    (hplain : ∀ s, .text s ∈ spellings → ∀ c ∈ s.toList, isQuote c = false) :
    Shape.readIds (valueList spellings) = (spellings.mapM Spelling.ids).map List.flatten := by
  rw [valueList, Shape.readIds_commaList, List.mapM_map]
  congr 1
  refine mapM_congr fun spelling hspelling => readIds_write ?_
  rintro s rfl
  exact hplain s hspelling

/-- Where no text has a comma, each literal gives the integer that it begins with, and nothing else. -/
theorem ids_of_commaless {spellings : List Spelling}
    (commaless : ∀ s, .text s ∈ spellings → ',' ∉ s.toList) :
    (spellings.mapM Spelling.ids).map List.flatten =
      (spellings.mapM Spelling.leading).map (·.filterMap id) := by
  have hids : ∀ spelling ∈ spellings, spelling.ids = spelling.leading.map Option.toList := by
    intro spelling hspelling
    cases spelling with
    | nothing | integer => rfl
    | text s => exact if_neg (commaless s hspelling)
  rw [mapM_congr hids, mapM_map_result]
  cases spellings.mapM Spelling.leading with
  | error fault => rfl
  | ok ids => exact congrArg Except.ok (List.filterMap_eq_flatMap_toList id ids).symm

end Literal

/-- The characters of a deletion of listed literals. -/
def deletionChars (table column : String) (spellings : List Spelling) : List Char :=
  "DELETE FROM ".toList ++ (table.toList ++ (" WHERE ".toList ++ (column.toList ++
    (" IN (".toList ++ (valueList spellings ++ [')'])))))

/-- The text of a deletion of listed literals. -/
def deletionText (table column : String) (spellings : List Spelling) : String :=
  String.ofList (deletionChars table column spellings)

variable {table column : String} {spellings : List Spelling}

/-- A list of literals closes no parenthesis unless one of its texts does. -/
theorem not_mem_valueList (hplain : ∀ s, .text s ∈ spellings → ∀ c ∈ s.toList, isQuote c = false)
    (hclosed : ∀ s, .text s ∈ spellings → ')' ∉ s.toList) :
    ')' ∉ valueList spellings := by
  intro h
  rcases mem_intercalate h with hseparator | ⟨literal, hliteral, h⟩
  · exact absurd hseparator (by decide)
  · obtain ⟨spelling, hspelling, rfl⟩ := List.mem_map.mp hliteral
    cases spelling with
    | nothing => exact absurd h (by decide)
    | integer n =>
        have hchars : ∀ c ∈ numeralChars, c ≠ ')' := forall_mem_of_all (by decide)
        exact hchars _ (mem_numeralChars h) rfl
    | text s =>
        rw [Spelling.write, doubleQuotes_eq_self (hplain s hspelling)] at h
        have hinside : ')' ∈ s.toList := by simpa [singleQuote] using h
        exact hclosed s hspelling hinside

/-- The shape of deletions reads a written one as its list is read. -/
theorem delete_deletionChars (isTable : IsName table) (isColumn : IsName column)
    (hopen : ')' ∉ valueList spellings) :
    Shape.delete (deletionChars table column spellings) = some (.ofExcept
      ((Shape.readIds (valueList spellings)).map fun ids => .delete ⟨table, column, ids⟩)) := by
  let list := ' ' :: '(' :: (valueList spellings ++ [')'])
  let condition := ' ' :: (column.toList ++ ' ' :: ("IN".toList ++ list))
  have hdelete : afterPhrase? ["delete", "from"] (deletionChars table column spellings) =
      some (' ' :: (table.toList ++ ' ' :: ("WHERE".toList ++ condition))) := rfl
  have hwhere : (afterBlanks? (' ' :: ("WHERE".toList ++ condition))).bind
      (afterPhrase? ["where"]) = some condition := rfl
  have hin : (afterBlanks? (' ' :: ("IN".toList ++ list))).bind (afterPhrase? ["in"]) =
      some list := rfl
  have hlist : (takeBracketed? ∘ trimStart) list = some (valueList spellings, []) :=
    takeBracketed?_eq_some_iff.mpr ⟨rfl, hopen⟩
  simp only [Shape.delete, hdelete, Option.bind_eq_bind, Option.bind_some, isTable.takeSpacedName?,
    hwhere, condition, isColumn.takeSpacedName?, hin, hlist]
  cases Shape.readIds (valueList spellings) <;> rfl

/-- A written deletion begins with a letter and ends with a parenthesis, so nothing is stripped off
it. -/
theorem strip_deletionChars (table column : String) (spellings : List Spelling) :
    Statement.strip (deletionChars table column spellings) =
      deletionChars table column spellings := by
  have hlast : (deletionChars table column spellings).getLast? = some ')' := by
    have hlist : (valueList spellings ++ [')']).getLast? = some ')' := List.getLast?_concat
    exact getLast?_append_of_eq_some _ (getLast?_append_of_eq_some _ (getLast?_append_of_eq_some _
      (getLast?_append_of_eq_some _ (getLast?_append_of_eq_some _ hlist))))
  apply Statement.strip_eq_self
  · rintro c ⟨⟩
    decide +kernel
  · rw [hlast]
    rintro c ⟨⟩
    decide +kernel

/-- A deletion of listed literals whose texts have neither quotes nor parentheses that close is read
with the ids of the literals in their order, if none of them has too many digits. Where no text has a
comma these are the integers that the literals begin with. -/
theorem deletionText_reading (isTable : IsName table) (isColumn : IsName column)
    (hplain : ∀ s, .text s ∈ spellings → ∀ c ∈ s.toList, isQuote c = false)
    (hclosed : ∀ s, .text s ∈ spellings → ')' ∉ s.toList) :
    Statement.read (deletionText table column spellings) =
        ((spellings.mapM Spelling.ids).map fun ids => .delete ⟨table, column, ids.flatten⟩) ∧
      ((∀ s, .text s ∈ spellings → ',' ∉ s.toList) →
        Statement.read (deletionText table column spellings) =
          (spellings.mapM Spelling.leading).map fun ids =>
            .delete ⟨table, column, ids.filterMap id⟩) := by
  have hdelete := delete_deletionChars isTable isColumn (not_mem_valueList hplain hclosed)
  have hread : Statement.read (deletionText table column spellings) =
      ((spellings.mapM Spelling.ids).map List.flatten).map fun ids =>
        .delete ⟨table, column, ids⟩ := by
    rw [← readIds_valueList hplain]
    have hshape : Shape.delete ∈ Statement.shapes := by simp [Statement.shapes]
    refine Statement.read_of_ofExcept hshape ?_
    rwa [deletionText, String.toList_ofList, strip_deletionChars]
  constructor
  · rw [hread]
    cases spellings.mapM Spelling.ids <;> rfl
  · intro commaless
    rw [hread, ids_of_commaless commaless]
    cases spellings.mapM Spelling.leading <;> rfl

/-- An integer, a text with a number behind white space, one without a number and one with commas. -/
theorem deletionText_reading_of_commas :
    let spellings : List Spelling :=
      [.integer (-3) (by decide), .text " 12th", .text "x1", .nothing, .text "1, 2,, 3 and 4"]
    IsName "users" ∧ IsName "id" ∧
      (∀ s, .text s ∈ spellings → ∀ c ∈ s.toList, isQuote c = false) ∧
      (∀ s, .text s ∈ spellings → ')' ∉ s.toList) ∧
      deletionText "users" "id" spellings =
        "DELETE FROM users WHERE id IN (-3, ' 12th', 'x1', NULL, '1, 2,, 3 and 4')" ∧
      Statement.read (deletionText "users" "id" spellings) =
        .ok (.delete ⟨"users", "id", [-3, 12, 2, 3]⟩) := by
  intro spellings
  have hplain : ∀ s, .text s ∈ spellings → ∀ c ∈ s.toList, isQuote c = false := by
    simp only [spellings, List.mem_cons, List.not_mem_nil, reduceCtorEq, Spelling.text.injEq,
      false_or, or_false]
    rintro s (rfl | rfl | rfl) <;> decide +kernel
  have hclosed : ∀ s, .text s ∈ spellings → ')' ∉ s.toList := by
    simp only [spellings, List.mem_cons, List.not_mem_nil, reduceCtorEq, Spelling.text.injEq,
      false_or, or_false]
    rintro s (rfl | rfl | rfl) <;> decide +kernel
  refine ⟨by decide +kernel, by decide +kernel, hplain, hclosed, by decide +kernel, ?_⟩
  rw [(deletionText_reading (by decide +kernel) (by decide +kernel) hplain hclosed).1]
  decide +kernel

/-- A text with a comma in it: the integer that it begins with is not read, and another one is. -/
theorem comma_in_text_changes_id :
    let spellings : List Spelling := [.text "1,2"]
    deletionText "t" "c" spellings = "DELETE FROM t WHERE c IN ('1,2')" ∧
      spellings.mapM Spelling.leading = .ok [some 1] ∧
      Statement.read (deletionText "t" "c" spellings) = .ok (.delete ⟨"t", "c", [2]⟩) := by
  decide +kernel

end MockSql
