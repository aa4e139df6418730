/-
# Values as literals

A value can be spelled as a literal: nothing by its word, an integer in decimal, a text between
single quotes with every quote in it doubled. Whatever the text holds, the scans for commas and
parentheses pass over its literal as over one character, and reading the literal gives the value.
No literal gives a text with more equals signs than it has itself.
-/

import MockSql.Literal.List
import MockSql.Proofs.Numerals
import MockSql.Proofs.Trim

namespace MockSql.Literal

open MockSql.Text MockSql.Number

/-- A text with every single quote in it doubled. -/
def doubleQuotes (text : List Char) : List Char :=
  text.flatMap fun c => if c = singleQuote then [singleQuote, singleQuote] else [c]

/-- A value that a literal can spell. An integer must not have too many digits. -/
inductive Spelling where
  | nothing
  | integer (n : Int) (printable : isPrintable n = true)
  | text (s : String)

namespace Spelling

/-- The value that is spelled. -/
def value : Spelling → Value
  | nothing => .null
  | integer n _ => .int n
  | text s => .text s

/-- The literal of a value. -/
def write : Spelling → List Char
  | nothing => "NULL".toList
  | integer n _ => intDigits n
  | text s => singleQuote :: (doubleQuotes s.toList ++ [singleQuote])

end Spelling

/-- Making doubled quotes single undoes doubling them. -/
theorem mergeQuotes_doubleQuotes (text : List Char) :
    mergeQuotes singleQuote (doubleQuotes text) = text := by
  induction text with
  | nil => rfl
  | cons c rest ih =>
      by_cases hquote : c = singleQuote
      · subst hquote
        have hdouble : doubleQuotes (singleQuote :: rest) =
            singleQuote :: singleQuote :: doubleQuotes rest := rfl
        rw [hdouble, mergeQuotes]
        simp [ih]
      · have hdouble : doubleQuotes (c :: rest) = c :: doubleQuotes rest := by
          simp [doubleQuotes, hquote]
        rw [hdouble]
        cases hrest : doubleQuotes rest with
        | nil =>
            rw [hrest] at ih
            rw [← ih]
            rfl
        | cons d later =>
            rw [mergeQuotes, ← hrest, ih]
            simp [hquote]

/-- A written integer is not the word for nothing. -/
theorem isNull_intDigits (n : Int) : isNull (intDigits n) = false := by
  have hupper : ∀ c ∈ numeralChars, upperChar c = [c] := forall_mem_of_all (by decide +kernel)
  have hfirst : ∀ c ∈ numeralChars, c ≠ 'N' := forall_mem_of_all (by decide)
  cases hdigits : intDigits n with
  | nil => exact absurd hdigits (intDigits_ne_nil n)
  | cons c rest =>
      have hc : c ∈ numeralChars := mem_numeralChars (hdigits ▸ List.mem_cons_self)
      simp [isNull, upper, hupper c hc, hfirst c hc]

namespace Spelling

theorem getLast?_write_text (s : String) : (write (text s)).getLast? = some singleQuote := by
  rw [write, ← List.cons_append, List.getLast?_concat]

/-- A literal begins and ends with characters that are not white space. -/
theorem trim_write (spelling : Spelling) : trim spelling.write = spelling.write := by
  cases spelling with
  | nothing => decide +kernel
  | integer n printable =>
      have hblank : ∀ c ∈ numeralChars, isBlank c = false := forall_mem_of_all (by decide +kernel)
      apply stripWhile_eq_self_of_forall
      intro c hc
      exact hblank c (mem_numeralChars hc)
  | text s =>
      have hblank : isBlank singleQuote = false := by decide +kernel
      apply stripWhile_eq_self
      · intro c hc
        cases hc
        exact hblank
      · intro c hc
        rw [getLast?_write_text] at hc
        cases hc
        exact hblank

theorem write_ne_nil (spelling : Spelling) : spelling.write ≠ [] := by
  cases spelling with
  | nothing => decide
  | integer n printable => exact intDigits_ne_nil n
  | text s => exact List.cons_ne_nil _ _

theorem unquote_of_bare {literal : List Char} (htrim : trim literal = literal)
    (hbare : ∀ c ∈ literal.head?, isQuote c = false) : unquote literal = (literal, false) := by
  cases literal with
  | nil => simp [unquote, htrim]
  | cons first rest => simp [unquote, htrim, hbare first rfl]

/-- The content of the literal of a text is that text. -/
theorem unquote_text (blanks : List Char) (hblanks : ∀ c ∈ blanks, isBlank c = true) (s : String) :
    unquote (blanks ++ write (text s)) = (s.toList, true) := by
  have hquote : isQuote singleQuote = true := by decide
  have htrim : trim (blanks ++ write (text s)) = write (text s) := by
    rw [trim, stripWhile_append hblanks, ← trim, trim_write]
  rw [unquote, htrim, write]
  simp [hquote, mergeQuotes_doubleQuotes]

/-- Reading a literal gives the value that it spells. -/
theorem readInserted_write (spelling : Spelling) :
    readInserted spelling.write = .ok spelling.value := by
  have hplain : ∀ c ∈ numeralChars, isQuote c = false := forall_mem_of_all (by decide)
  cases spelling with
  | nothing =>
      have hunquote : unquote "NULL".toList = ("NULL".toList, false) := by decide +kernel
      have hnull : isNull "NULL".toList = true := by decide +kernel
      simp only [write, readInserted, hunquote, hnull, Bool.or_true, if_true]
      rfl
  | integer n printable =>
      have hunquote : unquote (intDigits n) = (intDigits n, false) := by
        apply unquote_of_bare (trim_write (integer n printable))
        intro c hc
        exact hplain c (mem_numeralChars (List.mem_of_mem_head? hc))
      have hnonempty : (intDigits n).isEmpty = false :=
        List.isEmpty_eq_false_iff.mpr (intDigits_ne_nil n)
      simp only [write, readInserted, hunquote, hnonempty, isNull_intDigits, Bool.or_self,
        Bool.false_eq_true, if_false]
      exact coerceNumber_intDigits printable
  | text s =>
      have hunquote : unquote (write (text s)) = (s.toList, true) := unquote_text [] (by simp) s
      simp only [readInserted, hunquote, String.ofList_toList]
      rfl

end Spelling

/-- Making doubled quotes single keeps all equals signs. -/
theorem count_mergeQuotes {quote : Char} (hquote : quote ≠ '=') (text : List Char) :
    (mergeQuotes quote text).count '=' = text.count '=' := by
  fun_induction mergeQuotes quote text with
  | case1 c d rest hdouble ih =>
      simp only [Bool.and_eq_true, beq_iff_eq] at hdouble
      obtain ⟨rfl, rfl⟩ := hdouble
      simp [ih, hquote]
  | case2 c d rest hdouble ih => simp only [List.count_cons, ih]
  | case3 short => rfl

/-- The literal of a text has the equals signs of the text. -/
theorem Spelling.count_write_text (s : String) :
    (write (text s)).count '=' = s.toList.count '=' := by
  have hquote : singleQuote ≠ '=' := by decide
  have hmerge := count_mergeQuotes hquote (doubleQuotes s.toList)
  rw [mergeQuotes_doubleQuotes] at hmerge
  simp [write, hmerge, hquote]

/-- The content of a literal has no more equals signs than the literal. -/
theorem count_unquote_le (literal : List Char) :
    (unquote literal).1.count '=' ≤ literal.count '=' := by
  have htrim : (trim literal).count '=' ≤ literal.count '=' :=
    (stripWhile_sublist isBlank literal).count_le '='
  unfold unquote
  split
  next => exact Nat.zero_le _
  next first rest hliteral =>
    rw [hliteral] at htrim
    split
    next hquoted =>
      have hquote : first ≠ '=' := by
        rintro rfl
        simp [isQuote, singleQuote, doubleQuote] at hquoted
      calc (mergeQuotes first rest.dropLast).count '=' = rest.dropLast.count '=' :=
            count_mergeQuotes hquote rest.dropLast
        _ ≤ rest.count '=' := (List.dropLast_sublist rest).count_le '='
        _ ≤ (first :: rest).count '=' := List.count_le_count_cons
        _ ≤ literal.count '=' := htrim
    next => exact htrim

/-- A text that is read from an assignment or a predicate has no more equals signs than its
literal. -/
theorem count_le_of_readAssigned {literal : List Char} {s : String}
    (h : readAssigned literal = .ok (.text s)) : s.toList.count '=' ≤ literal.count '=' := by
  simp only [readAssigned] at h
  split at h
  next => cases h
  next =>
    rw [coerceNumber_eq_text h, String.toList_ofList]
    exact count_unquote_le literal

/-- The nesting after a text, if no comma and no closing parenthesis in it counts. -/
def Nesting.through? (nesting : Nesting) : List Char → Option Nesting
  | [] => some nesting
  | c :: rest =>
    if nesting.isBare && (c == ',' || c == ')') then none else (nesting.step c).through? rest

/-- A group does not end inside a text in which nothing counts. -/
theorem bodyFrom?_append {nesting next : Nesting} {text : List Char} (rest : List Char)
    (hthrough : nesting.through? text = some next) :
    bodyFrom? nesting (text ++ rest) = (bodyFrom? next rest).map (text ++ ·) := by
  induction text generalizing nesting with
  | nil =>
      cases hthrough
      simp
  | cons c text ih =>
      rw [Nesting.through?] at hthrough
      split at hthrough
      next => cases hthrough
      next hquiet =>
        have hopen : (c == ')' && nesting.isBare && (nesting.step c).depth == 0) = false := by
          grind
        simp only [List.cons_append, bodyFrom?, hopen, Bool.false_eq_true, if_false, ih hthrough,
          Option.map_map]
        rfl

/-- A list is not cut inside a text in which nothing counts. -/
theorem splitFrom_append {nesting next : Nesting} {text : List Char} (current rest : List Char)
    (hthrough : nesting.through? text = some next) :
    splitFrom nesting current (text ++ rest) = splitFrom next (text.reverse ++ current) rest := by
  induction text generalizing nesting current with
  | nil =>
      cases hthrough
      rfl
  | cons c text ih =>
      rw [Nesting.through?] at hthrough
      split at hthrough
      next => cases hthrough
      next hquiet =>
        have hkept : (c == ',' && nesting.isBare && nesting.depth == 0) = false := by
          grind
        rw [List.cons_append, splitFrom, hkept, if_neg (by decide), ih _ hthrough]
        simp

/-- A character that neither opens nor closes nor separates anything. -/
def isPlain (c : Char) : Bool :=
  !isQuote c && c != '(' && c != ')' && c != ','

theorem through?_plain {text : List Char} (hplain : ∀ c ∈ text, isPlain c = true) (depth : Int) :
    (⟨none, depth⟩ : Nesting).through? text = some ⟨none, depth⟩ := by
  induction text with
  | nil => rfl
  | cons c rest ih =>
      have hc := hplain c List.mem_cons_self
      have hstep : (⟨none, depth⟩ : Nesting).step c = ⟨none, depth⟩ := by
        simp_all [isPlain, Nesting.step]
      rw [Nesting.through?, hstep, ih fun d hd => hplain d (List.mem_cons_of_mem _ hd)]
      simp_all [isPlain]

/-- From inside a quote, a text with its quotes doubled and one more quote lead out of it. -/
theorem through?_quoted (text : List Char) (depth : Int) :
    (⟨some singleQuote, depth⟩ : Nesting).through? (doubleQuotes text ++ [singleQuote]) =
      some ⟨none, depth⟩ := by
  induction text with
  | nil => rfl
  | cons c rest ih =>
      by_cases hquote : c = singleQuote
      · subst hquote
        have hdouble : doubleQuotes (singleQuote :: rest) ++ [singleQuote] =
            singleQuote :: singleQuote :: (doubleQuotes rest ++ [singleQuote]) := rfl
        rw [hdouble]
        exact ih
      · have hdouble : doubleQuotes (c :: rest) ++ [singleQuote] =
            c :: (doubleQuotes rest ++ [singleQuote]) := by simp [doubleQuotes, hquote]
        have hstep : (⟨some singleQuote, depth⟩ : Nesting).step c = ⟨some singleQuote, depth⟩ := by
          simp [Nesting.step, hquote]
        rw [hdouble, Nesting.through?, hstep]
        exact ih

/-- What is read through in two parts is read through. -/
theorem Nesting.through?_append {nesting next : Nesting} {text : List Char} (rest : List Char)
    (hthrough : nesting.through? text = some next) :
    nesting.through? (text ++ rest) = next.through? rest := by
  induction text generalizing nesting with
  | nil =>
      cases hthrough
      rfl
  | cons c text ih =>
      rw [through?] at hthrough
      rw [List.cons_append, through?]
      split at hthrough
      next => cases hthrough
      next hquiet => rw [if_neg hquiet, ih hthrough]

/-- Nothing in a literal counts, and it leaves the nesting as it was. -/
theorem Spelling.through?_write (spelling : Spelling) (depth : Int) :
    (⟨none, depth⟩ : Nesting).through? spelling.write = some ⟨none, depth⟩ := by
  cases spelling with
  | nothing => exact through?_plain (forall_mem_of_all (by decide)) depth
  | integer n printable =>
      have hplain : ∀ c ∈ numeralChars, isPlain c = true := forall_mem_of_all (by decide)
      apply through?_plain
      intro c hc
      exact hplain c (mem_numeralChars hc)
  | text s => exact through?_quoted s.toList depth

/-- Items with a comma and a space between them. -/
def commaList (items : List (List Char)) : List Char :=
  [',', ' '].intercalate items

@[simp]
theorem commaList_nil : commaList [] = [] :=
  rfl

@[simp]
theorem commaList_singleton (item : List Char) : commaList [item] = item :=
  List.intercalate_singleton

@[simp]
theorem commaList_cons_cons (item next : List Char) (rest : List (List Char)) :
    commaList (item :: next :: rest) = item ++ ',' :: ' ' :: commaList (next :: rest) := by
  simp [commaList]

/-- A list begins with its first item. -/
theorem commaList_cons (item : List Char) (rest : List (List Char)) :
    ∃ more, commaList (item :: rest) = item ++ more := by
  cases rest with
  | nil => exact ⟨[], by simp⟩
  | cons next later => exact ⟨_, commaList_cons_cons item next later⟩

/-- A text that can be an item of a list: nothing in it counts, and it is there and trimmed. -/
structure IsItem (item : List Char) : Prop where
  through : ∀ depth, (⟨none, depth⟩ : Nesting).through? item = some ⟨none, depth⟩
  trimmed : trim item = item
  nonempty : item ≠ []

/-- A group of items ends at its own parenthesis, whatever follows. -/
theorem bodyFrom?_commaList {items : List (List Char)} (areItems : ∀ item ∈ items, IsItem item)
    (rest : List Char) :
    bodyFrom? ⟨none, 1⟩ (commaList items ++ ')' :: rest) = some (commaList items) := by
  have hend : bodyFrom? ⟨none, 1⟩ (')' :: rest) = some [] := rfl
  induction items with
  | nil => exact hend
  | cons item later ih =>
      have hthrough := (areItems item List.mem_cons_self).through 1
      have hlater := ih fun other hother => areItems other (List.mem_cons_of_mem _ hother)
      cases later with
      | nil =>
          rw [commaList_singleton, bodyFrom?_append _ hthrough, hend, Option.map_some,
            List.append_nil]
      | cons next later =>
          have hcomma : ∀ more, bodyFrom? ⟨none, 1⟩ (',' :: ' ' :: more) =
              (bodyFrom? ⟨none, 1⟩ more).map (',' :: ' ' :: ·) := by
            intro more
            simp [bodyFrom?, Nesting.step, isQuote, singleQuote, doubleQuote, Function.comp_def]
          rw [commaList_cons_cons, List.append_assoc, bodyFrom?_append _ hthrough, List.cons_append,
            List.cons_append, hcomma, hlater]
          rfl

/-- A list of items is cut into these items. The space behind a comma is held already when the next item
begins. -/
theorem splitFrom_commaList {items : List (List Char)} (hnonempty : items ≠ [])
    (areItems : ∀ item ∈ items, IsItem item) {current : List Char}
    (hblank : ∀ c ∈ current, isBlank c = true) :
    splitFrom .outside current (commaList items) = items := by
  induction items generalizing current with
  | nil => exact absurd rfl hnonempty
  | cons item later ih =>
      have isItem := areItems item List.mem_cons_self
      have hthrough := isItem.through 0
      have htrim : trim (item.reverse ++ current).reverse = item := by
        rw [List.reverse_append, List.reverse_reverse, trim, stripWhile_append]
        · exact isItem.trimmed
        · intro c hc
          exact hblank c (List.mem_reverse.mp hc)
      cases later with
      | nil =>
          have hlist : commaList [item] = item ++ [] := by
            rw [commaList_singleton, List.append_nil]
          rw [hlist, Nesting.outside, splitFrom_append _ _ hthrough, splitFrom, htrim]
          simp [isItem.nonempty]
      | cons next later =>
          have hcut : ∀ held more, splitFrom ⟨none, 0⟩ held (',' :: ' ' :: more) =
              trim held.reverse :: splitFrom .outside [' '] more := by
            intro held more
            rfl
          have hspace : ∀ c ∈ [' '], isBlank c = true := forall_mem_of_all (by decide +kernel)
          have hlater := ih (List.cons_ne_nil _ _)
            (fun other hother => areItems other (List.mem_cons_of_mem _ hother)) hspace
          rw [commaList_cons_cons, Nesting.outside, splitFrom_append _ _ hthrough, hcut, htrim,
            hlater]

/-- A literal can be an item of a list. -/
theorem Spelling.isItem_write (spelling : Spelling) : IsItem spelling.write where
  through := spelling.through?_write
  trimmed := spelling.trim_write
  nonempty := spelling.write_ne_nil

/-- The literals of values as a list. -/
def valueList (spellings : List Spelling) : List Char :=
  commaList (spellings.map Spelling.write)

theorem isItem_of_mem_literals {spellings : List Spelling} :
    ∀ item ∈ spellings.map Spelling.write, IsItem item := by
  intro item hitem
  obtain ⟨spelling, _, rfl⟩ := List.mem_map.mp hitem
  exact spelling.isItem_write

/-- A group of literals ends at its own parenthesis, whatever follows. -/
theorem bodyFrom?_valueList (spellings : List Spelling) (rest : List Char) :
    bodyFrom? ⟨none, 1⟩ (valueList spellings ++ ')' :: rest) = some (valueList spellings) :=
  bodyFrom?_commaList isItem_of_mem_literals rest

/-- A list of literals is cut into these literals. -/
theorem splitFrom_valueList {spellings : List Spelling} (hnonempty : spellings ≠ [])
    {current : List Char} (hblank : ∀ c ∈ current, isBlank c = true) :
    splitFrom .outside current (valueList spellings) = spellings.map Spelling.write :=
  splitFrom_commaList (by simpa using hnonempty) isItem_of_mem_literals hblank

end MockSql.Literal
