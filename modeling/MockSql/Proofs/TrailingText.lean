/-
# Text behind the first group and behind an equals sign

An insertion ends with value lists, an update with a literal, and neither is told to end where its
grammar does. Behind the first group of an insertion any text is ignored that ends with a closing
parenthesis, and any other text makes it unsupported. Behind the equals sign of its last predicate
everything belongs to the literal of an update.
-/

import Mathlib.Data.List.Nodup
import MockSql.Proofs.LastPredicates
import MockSql.Proofs.Updates
import MockSql.Proofs.ValueLists

namespace MockSql

open MockSql.Text MockSql.Literal

/-- Nothing, or a text that ends with a closing parenthesis. -/
def EndsClosed (rest : List Char) : Prop :=
  rest = [] ∨ rest.getLast? = some ')'

/-- The statement that a shape makes of the parts of an insertion. -/
def readInsertion (table : String) (columns : Option (List Char)) (body : List Char) :
    Except Fault Statement := do
  let values ← (splitValues body).mapM readInserted
  .ok (.insert ⟨table, columns.map Shape.columnNames, values⟩)

/-- The ways of writing an update around its assignments, up to its last equals sign, and what stands
behind that. -/
inductive WritesUpdate (table : String) (list : List Char) (column : String) (behind : List Char) :
    List Char → Prop
  | intro {front gap sign : List Char} {blank : Char}
      (written : Written (keywords ["update"] ++ [.name table] ++ keywords ["set"]) front)
      (isGap : IsGap gap) (hblank : isBlank blank = true) (hsign : WritesSign column sign) :
      WritesUpdate table list column behind (front ++ (gap ++ (list ++ blank :: (sign ++ behind))))

namespace Shape

variable {text head body rest list behind : List Char} {columns : Option (List Char)}
variable {table column : String}

/-- A text that begins with a group ends with a closing parenthesis if the text behind the group is
closed. -/
theorem getLast?_group_eq_iff :
    ('(' :: (body ++ ')' :: rest)).getLast? = some ')' ↔ EndsClosed rest := by
  have hsplit : '(' :: (body ++ ')' :: rest) = ('(' :: body) ++ ')' :: rest := rfl
  rw [hsplit, List.getLast?_append_of_ne_nil _ (List.cons_ne_nil _ _), EndsClosed]
  cases rest with
  | nil => simp
  | cons c rest => simp

theorem leadingGroup?_group (isGroupBody : IsGroupBody body) :
    leadingGroup? ('(' :: (body ++ ')' :: rest)) = some body := by
  have hopening : isBlank '(' = false := by decide
  exact leadingGroup?_eq_some_iff.mpr ⟨rest, by simp [trimStart, hopening], isGroupBody⟩

/-- An insertion is made of a head, a group, and a text behind it that is closed. -/
theorem exists_group_of_insert_eq_statement {insertion : Insertion}
    (h : insert text = some (.statement (.insert insertion))) :
    ∃ columns head body rest, text = head ++ '(' :: (body ++ ')' :: rest) ∧
      (IntroducesValues insertion.table columns head ∨
        columns = none ∧ RunsTogether insertion.table head) ∧
      IsGroupBody body ∧ EndsClosed rest ∧
      readInsertion insertion.table columns body = .ok (.insert insertion) := by
  simp only [insert, Option.bind_eq_bind, Option.bind_eq_some_iff] at h
  obtain ⟨⟨table, columns, groups⟩, hinsertion, hreading⟩ := h
  obtain ⟨hfirst, hlast, head, rfl, hhead⟩ := takeInsertion?_eq_some hinsertion
  split at hreading
  next => cases hreading
  next body hbody =>
    have hread := Reading.ofExcept_eq_statement.mp (Option.some.inj hreading)
    obtain ⟨rest, htrim, isGroupBody⟩ := leadingGroup?_eq_some_iff.mp hbody
    have hgroups : trimStart groups = groups := by
      apply dropWhile_eq_self
      rw [hfirst]
      rintro c ⟨⟩
      decide
    rw [hgroups] at htrim
    rw [htrim, getLast?_group_eq_iff] at hlast
    have hmade : readInsertion (String.ofList table) columns body = .ok (.insert insertion) := hread
    obtain ⟨values, -, heq⟩ := bind_eq_ok_iff.mp hmade
    cases heq
    exact ⟨columns, head, body, rest, by rw [htrim], hhead, isGroupBody, hlast, hmade⟩

/-- Behind the first group a closed text is ignored. -/
theorem insert_of_endsClosed (introduces : IntroducesValues table columns head)
    (isGroupBody : IsGroupBody body) (closed : EndsClosed rest) :
    insert (head ++ '(' :: (body ++ ')' :: rest)) =
      some (.ofExcept (readInsertion table columns body)) := by
  have hlast : ('(' :: (body ++ ')' :: rest)).getLast? = some ')' :=
    getLast?_group_eq_iff.mpr closed
  have hinsertion := takeInsertion?_of_introducesValues introduces rfl hlast
  simp only [insert, hinsertion, Option.bind_eq_bind, Option.bind_some,
    leadingGroup?_group isGroupBody, String.ofList_toList, readInsertion]

/-- With any other text behind it there is no insertion. -/
theorem insert_of_not_endsClosed (notClosed : ¬ EndsClosed rest) :
    insert (head ++ '(' :: (body ++ ')' :: rest)) = none := by
  have hnone : takeInsertion? (head ++ '(' :: (body ++ ')' :: rest)) = none := by
    rw [Option.eq_none_iff_forall_ne_some]
    rintro ⟨table, columns, groups⟩ h
    obtain ⟨-, hlast, front, hsplit, -⟩ := takeInsertion?_eq_some h
    have hend := getLast?_append_of_eq_some front hlast
    rw [← hsplit, List.getLast?_append_of_ne_nil _ (List.cons_ne_nil _ _),
      getLast?_group_eq_iff] at hend
    exact notClosed hend
  simp [insert, hnone]

/-- An update is made of assignments and of its last predicate. -/
theorem writesUpdate_of_update_eq_statement {made : Update}
    (h : update text = some (.statement (.update made))) :
    ∃ list behind, WritesUpdate made.table list made.column behind text ∧ list ≠ [] ∧
      trimStart behind ≠ [] ∧ cutAtPredicate? behind = none ∧
      readUpdate made.table list made.column (trimStart behind) = .ok (.update made) := by
  simp only [update, Option.bind_eq_bind, Option.bind_eq_some_iff] at h
  obtain ⟨⟨table, rest⟩, hname, after, ⟨spaced, hspaced, hset⟩, ⟨list, column, literal⟩, htake,
    hreading⟩ := h
  have hwords : ["update"] ≠ [] := List.cons_ne_nil _ _
  obtain ⟨front, hfront, rfl⟩ :=
    afterPhrase?_takeSpacedName?_eq_some hwords (Option.bind_eq_some_iff.mpr hname)
  obtain ⟨gap, isGap, rfl⟩ := afterBlanks?_eq_some hspaced
  obtain ⟨keyword, hkeyword, rfl⟩ := afterPhrase?_eq_some (by decide) hset
  obtain ⟨more, c, later, first, hmore, rfl, rfl, hcut⟩ := takeAssignments?_eq_some htake
  obtain ⟨blank, sign, behind, hblank, hsign, rfl, quiet, rfl, hne⟩ :=
    cutAtPredicate?_eq_some_iff.mp hcut
  have hmade : readUpdate table (c :: first) column (trimStart behind) = .ok (.update made) :=
    Reading.ofExcept_eq_statement.mp (Option.some.inj hreading)
  obtain ⟨_, -, hrest⟩ := bind_eq_ok_iff.mp hmade
  obtain ⟨_, -, heq⟩ := bind_eq_ok_iff.mp hrest
  cases heq
  refine ⟨c :: first, behind, ?_, List.cons_ne_nil _ _, hne, quiet, hmade⟩
  have written : Written (keywords ["update"] ++ [.name table] ++ keywords ["set"])
      (front ++ gap ++ keyword) := hfront.append isGap hkeyword
  have writes : WritesUpdate table (c :: first) column behind
      ((front ++ gap ++ keyword) ++ (more ++ (c :: first ++ blank :: (sign ++ behind)))) :=
    .intro written hmore hblank hsign
  simpa only [List.append_assoc, List.cons_append] using writes

/-- Whatever stands behind the equals sign is the literal, if no predicate begins there. -/
theorem update_of_writesUpdate {c : Char}
    (writes : WritesUpdate table (c :: list) column behind text) (hc : isBlank c = false)
    (hne : trimStart behind ≠ []) (quiet : cutAtPredicate? behind = none) :
    update text = some (.ofExcept (readUpdate table (c :: list) column (trimStart behind))) := by
  obtain ⟨written, isGap, hblank, hsign⟩ := writes
  rename_i front gap sign blank
  obtain ⟨named, between, keyword, rfl, isBetween, hnamed, hkeyword⟩ :=
    written.split (by simp [keywords]) (by simp [keywords])
  have hcut : cutAtPredicate? (list ++ blank :: (sign ++ behind)) =
      some (list, column, trimStart behind) :=
    cutAtPredicate?_eq_some_iff.mpr ⟨blank, sign, behind, hblank, hsign, rfl, quiet, rfl, hne⟩
  have htake := takeAssignments?_append isGap hc hcut
  have isUpdate : ∀ word ∈ ["update"], IsKeyword word := by decide
  have isSet : ∀ word ∈ ["set"], IsKeyword word := by decide
  have hname := afterPhrase?_takeSpacedName?_append isUpdate (List.cons_ne_nil _ _)
    hnamed (isBetween.not_word_of_mem_head?
      (keyword ++ (gap ++ c :: (list ++ blank :: (sign ++ behind)))))
  have hblanks := afterBlanks?_append isBetween
    (hkeyword.not_isBlank_of_mem_head?_append (keywords_proper isSet)
      (gap ++ c :: (list ++ blank :: (sign ++ behind))))
  have hset := afterPhrase?_append isSet hkeyword
    (gap ++ c :: (list ++ blank :: (sign ++ behind)))
  simp only [update, List.append_assoc, List.cons_append, hname, hblanks, hset, htake, readUpdate,
    Option.bind_eq_bind, Option.bind_some]

end Shape

namespace Statement

variable {text head body rest : List Char} {columns : Option (List Char)}
variable {table column : String}

/-- A text that begins with the phrase of a shape but is not of that shape is of no other. -/
theorem readWith_eq_none_of_phrase {entry : List String × Shape} (hentry : entry ∈ Shape.withPhrases)
    (hphrase : afterPhrase? entry.1 text = some rest) (hnone : entry.2 text = none) :
    readWith shapes text = none := by
  have hdistinct : (Shape.withPhrases.map Prod.fst).Nodup := by decide
  have hdiffer : ∀ entry ∈ Shape.withPhrases, ∀ other ∈ Shape.withPhrases,
      entry.1 ≠ other.1 → phrasesDiffer entry.1 other.1 = true := by decide
  refine readWith_eq_none fun shape hshape => ?_
  rw [Shape.shapes_eq, List.mem_map] at hshape
  obtain ⟨other, hother, rfl⟩ := hshape
  by_cases hsame : entry.1 = other.1
  · rwa [← List.inj_on_of_nodup_map hdistinct hentry hother hsame]
  · exact Shape.withPhrases_beginsWith other hother text (not_both_phrases
      (Shape.withPhrases_isKeyword entry hentry) (Shape.withPhrases_isKeyword other hother)
      (hdiffer entry hentry other hother hsame) hphrase)

/-- An insertion with a text behind its first group that is not closed is no statement at all. -/
theorem readWith_of_not_endsClosed (introduces : IntroducesValues table columns head)
    (notClosed : ¬ EndsClosed rest) :
    readWith shapes (head ++ '(' :: (body ++ ')' :: rest)) = none := by
  have hnone : Shape.insert (head ++ '(' :: (body ++ ')' :: rest)) = none :=
    Shape.insert_of_not_endsClosed notClosed
  have hentry : (["insert", "into"], Shape.insert) ∈ Shape.withPhrases := by
    simp [Shape.withPhrases]
  obtain ⟨written, -, -, -⟩ := introduces
  obtain ⟨phrase, gap, name, rfl, -, hphrase, -⟩ :=
    written.split (by simp [keywords]) (List.cons_ne_nil _ _)
  simp only [List.append_assoc] at hnone ⊢
  exact readWith_eq_none_of_phrase hentry (afterPhrase?_append (by decide) hphrase _) hnone

/-- What is read as an insertion is a head, one group, and behind it nothing or any text that ends
with a closing parenthesis; such a text is ignored, and with any other the insertion is unsupported.
What is read as an update is cut at its last predicate, and everything behind the equals sign of that
is its literal. -/
theorem text_behind_insertions_and_updates (query : String) :
    (∀ insertion, read query = .ok (.insert insertion) → ∃ columns head body rest,
      strip query.toList = head ++ '(' :: (body ++ ')' :: rest) ∧
        (IntroducesValues insertion.table columns head ∨
          columns = none ∧ RunsTogether insertion.table head) ∧
        IsGroupBody body ∧ EndsClosed rest ∧
        readInsertion insertion.table columns body = .ok (.insert insertion)) ∧
    (∀ table columns head body rest,
      strip query.toList = head ++ '(' :: (body ++ ')' :: rest) →
      IntroducesValues table columns head → IsGroupBody body →
        (EndsClosed rest → read query = readInsertion table columns body) ∧
        (¬ EndsClosed rest →
          read query = .error (.unsupported (String.ofList (normalize query.toList))))) ∧
    (∀ update, read query = .ok (.update update) → ∃ list behind,
      WritesUpdate update.table list update.column behind (strip query.toList) ∧ list ≠ [] ∧
        trimStart behind ≠ [] ∧ (∀ later, later <:+ behind → Shape.takePredicate? later = none) ∧
        readUpdate update.table list update.column (trimStart behind) = .ok (.update update)) ∧
    ∀ table list column behind,
      WritesUpdate table list column behind (strip query.toList) →
      (∃ c later, list = c :: later ∧ isBlank c = false) → trimStart behind ≠ [] →
      (∀ later, later <:+ behind → Shape.takePredicate? later = none) →
        read query = readUpdate table list column (trimStart behind) := by
  refine ⟨?_, ?_, ?_, ?_⟩
  · intro insertion hread
    exact Shape.exists_group_of_insert_eq_statement (read_eq_ok_iff.mp hread)
  · intro table columns head body rest hstrip introduces isGroupBody
    refine ⟨fun closed => ?_, fun notClosed => ?_⟩
    · have hinsert := Shape.insert_of_endsClosed introduces isGroupBody closed
      exact read_of_ofExcept (by simp [shapes]) (hstrip ▸ hinsert)
    · rw [read, hstrip, readWith_of_not_endsClosed introduces notClosed]
      rfl
  · intro update hread
    obtain ⟨list, behind, writes, hlist, hne, quiet, hmade⟩ :=
      Shape.writesUpdate_of_update_eq_statement (read_eq_ok_iff.mp hread)
    exact ⟨list, behind, writes, hlist, hne, Shape.cutAtPredicate?_eq_none_iff.mp quiet, hmade⟩
  · rintro table list column behind writes ⟨c, later, rfl, hc⟩ hne quiet
    exact read_of_ofExcept (by simp [shapes])
      (Shape.update_of_writesUpdate writes hc hne (Shape.cutAtPredicate?_eq_none_iff.mpr quiet))

theorem writesValues_space : WritesValues "VALUES ".toList :=
  ⟨"VALUES".toList, [' '], by decide +kernel, isGap_space.2, rfl⟩

theorem introducesValues_listed :
    IntroducesValues "t" (some ['a']) "INSERT INTO t (a) VALUES ".toList := by
  have written : Written (keywords ["insert", "into"] ++ [.name "t"]) "INSERT INTO t".toList :=
    written_of_nothing_left (by decide) (by decide +kernel)
  have listsColumns : ListsColumns (some ['a']) ([' '] ++ '(' :: (['a'] ++ ')' :: [' '])) :=
    .given isGap_space.2 (by decide) isGap_space.2
  exact .intro written listsColumns (.inl (by simp)) writesValues_space

theorem introducesValues_marked :
    IntroducesValues "t" none "INSERT INTO `t`VALUES ".toList := by
  have written : Written (keywords ["insert", "into"] ++ [.name "t"]) "INSERT INTO `t`".toList :=
    written_of_nothing_left (by decide) (by decide +kernel)
  have nothing : ListsColumns none [] := .absent (by simp [AreBlanks])
  exact .intro written nothing (.inr (by decide +kernel)) writesValues_space

theorem writesUpdate_two_conditions : WritesUpdate "t" "a = 1".toList "b" " 2 AND c = 3".toList
    "UPDATE t SET a = 1 WHERE b = 2 AND c = 3".toList := by
  have written : Written (keywords ["update"] ++ [.name "t"]) "UPDATE t".toList :=
    written_of_nothing_left (by decide) (by decide +kernel)
  have hset : Written (keywords ["set"]) "SET".toList :=
    .last (show Spells _ _ by decide +kernel)
  have hsign : WritesSign "b" ("WHERE".toList ++ ([' '] ++ (['b'] ++ ([' '] ++ ['='])))) :=
    .intro (by decide +kernel) isGap_space
      ⟨by decide, [], by simp, [], by simp, rfl⟩ isGap_space.2
  have hspace : isBlank ' ' = true := by decide
  exact .intro (written.append isGap_space hset) isGap_space hspace hsign

theorem isGroupBody_one : IsGroupBody ['1'] := by
  have hscan : bodyFrom? .opened (['1'] ++ ')' :: []) = some ['1'] := rfl
  exact .of_bodyFrom? hscan

/-- A clause for rows that are already there is ignored if it ends with a parenthesis, and any other
clause makes the insertion unsupported. Another condition on the rows to update becomes a part of the
literal. -/
theorem text_behind_insertions_and_updates_of_clauses :
    read "INSERT INTO t (a) VALUES (1) ON DUPLICATE KEY UPDATE a = (2)" =
        .ok (.insert ⟨"t", some ["a"], [.int 1]⟩) ∧
      read "INSERT INTO `t`VALUES (1) RETURNING a" =
        .error (.unsupported "insert into `t`values (1) returning a") ∧
      read "UPDATE t SET a = 1 WHERE b = 2 AND c = 3" =
        .ok (.update ⟨"t", [("a", .int 1)], "b", .text "2 AND c = 3"⟩) := by
  refine ⟨?_, ?_, ?_⟩
  · obtain ⟨-, hinsertion, -⟩ := text_behind_insertions_and_updates
      "INSERT INTO t (a) VALUES (1) ON DUPLICATE KEY UPDATE a = (2)"
    have hrest : EndsClosed " ON DUPLICATE KEY UPDATE a = (2)".toList := .inr (by decide +kernel)
    exact (hinsertion "t" _ _ _ _ (by decide +kernel) introducesValues_listed
      isGroupBody_one).1 hrest
  · obtain ⟨-, hinsertion, -⟩ := text_behind_insertions_and_updates
      "INSERT INTO `t`VALUES (1) RETURNING a"
    have hrest : ¬ EndsClosed " RETURNING a".toList := by
      unfold EndsClosed
      decide +kernel
    exact (hinsertion "t" _ _ _ _ (by decide +kernel) introducesValues_marked
      isGroupBody_one).2 hrest
  · obtain ⟨-, -, -, hupdate⟩ := text_behind_insertions_and_updates
      "UPDATE t SET a = 1 WHERE b = 2 AND c = 3"
    have hstrip : strip "UPDATE t SET a = 1 WHERE b = 2 AND c = 3".toList =
        "UPDATE t SET a = 1 WHERE b = 2 AND c = 3".toList := by decide +kernel
    exact hupdate "t" _ _ _ (hstrip ▸ writesUpdate_two_conditions)
      ⟨'a', " = 1".toList, rfl, by decide⟩ (by decide +kernel)
      (Shape.cutAtPredicate?_eq_none_iff.mp (by decide +kernel))

/-- What can stand between two groups of value lists. -/
def isSeparator (c : Char) : Bool :=
  c == ',' || isBlank c

/-- Groups with commas and white space between them, and nothing else. -/
inductive IsGroupList : List Char → Prop
  | last {body : List Char} (isGroupBody : IsGroupBody body) : IsGroupList ('(' :: (body ++ [')']))
  | more {body separators later : List Char} (isGroupBody : IsGroupBody body)
      (areSeparators : ∀ c ∈ separators, isSeparator c = true) (hlater : IsGroupList later) :
      IsGroupList ('(' :: (body ++ ')' :: (separators ++ later)))

/-- Behind the first group of a list comes another one, or nothing. -/
theorem IsGroupList.head?_behind (isGroupList : IsGroupList ('(' :: (body ++ ')' :: rest)))
    (isGroupBody : IsGroupBody body) : ∀ c ∈ (rest.dropWhile isSeparator).head?, c = '(' := by
  have hunique : ∀ {other more : List Char}, IsGroupBody other →
      body ++ ')' :: rest = other ++ ')' :: more → rest = more := by
    intro other more hother heq
    have hbody := (bodyFrom?_eq_some_iff (by decide)).mpr
      ⟨rest, rfl, isGroupBody.staysOpen, isGroupBody.settled⟩
    have hfound := (bodyFrom?_eq_some_iff (by decide)).mpr
      ⟨more, heq, hother.staysOpen, hother.settled⟩
    obtain rfl := Option.some.inj (hbody.symm.trans hfound)
    exact (List.cons_eq_cons.mp (List.append_cancel_left heq)).2
  generalize htext : '(' :: (body ++ ')' :: rest) = text at isGroupList
  cases isGroupList with
  | last hother =>
      obtain rfl := hunique hother (List.cons_eq_cons.mp htext).2
      simp
  | @more other separators later hother areSeparators hlater =>
      obtain rfl := hunique hother (List.cons_eq_cons.mp htext).2
      rw [List.dropWhile_append_of_pos areSeparators]
      have hparenthesis : isSeparator '(' = false := by decide +kernel
      cases hlater with
      | last | more => simp [hparenthesis]

/-- A quoted text, or a word without white space. -/
def IsSingleLiteral (literal : List Char) : Prop :=
  (∃ quote inside, isQuote quote = true ∧ literal = quote :: (inside ++ [quote])) ∨
    ∀ c ∈ literal, isBlank c = false

/-- What follows the keyword of value lists is accepted although it is no list of groups, and what
follows an equals sign although it is no single literal. -/
theorem clauses_behind_are_accepted :
    (IntroducesValues "t" (some ['a']) "INSERT INTO t (a) VALUES ".toList ∧
      ¬ IsGroupList "(1) ON DUPLICATE KEY UPDATE a = (2)".toList ∧
      read "INSERT INTO t (a) VALUES (1) ON DUPLICATE KEY UPDATE a = (2)" =
        .ok (.insert ⟨"t", some ["a"], [.int 1]⟩)) ∧
      WritesUpdate "t" "a = 1".toList "b" " 2 AND c = 3".toList
        "UPDATE t SET a = 1 WHERE b = 2 AND c = 3".toList ∧
      ¬ IsSingleLiteral "2 AND c = 3".toList ∧
      read "UPDATE t SET a = 1 WHERE b = 2 AND c = 3" =
        .ok (.update ⟨"t", [("a", .int 1)], "b", .text "2 AND c = 3"⟩) := by
  refine ⟨⟨introducesValues_listed, ?_, by decide +kernel⟩, writesUpdate_two_conditions, ?_,
    by decide +kernel⟩
  · intro isGroupList
    have hlists : "(1) ON DUPLICATE KEY UPDATE a = (2)".toList =
        '(' :: (['1'] ++ ')' :: " ON DUPLICATE KEY UPDATE a = (2)".toList) := by decide +kernel
    rw [hlists] at isGroupList
    exact absurd (isGroupList.head?_behind isGroupBody_one 'O' (by decide +kernel)) (by decide)
  · rintro (⟨quote, inside, hquote, hliteral⟩ | hword)
    · obtain ⟨rfl, -⟩ := List.cons_eq_cons.mp hliteral
      cases hquote
    · exact absurd (hword ' ' (by decide +kernel)) (by decide)

end Statement

end MockSql
