/-
# Where table-level clauses stand

The definitions of a body may be merged with its table-level clauses in any way that keeps the order of
the ones and of the others: if the body has at most one primary key with a bracket, then the columns are
the same. They have the names, the types, the nullability, the defaults and the numbering that the
definitions alone give them, and at most one of them is the primary key.
-/

import MockSql.Proofs.Parentheses
import MockSql.Proofs.TableClauses

namespace MockSql

open MockSql.Text

/-- The ways of merging two lists that keep the order of each. -/
inductive Merges {α : Type} : List α → List α → List α → Prop
  | nil : Merges [] [] []
  | first {item : α} {firsts seconds merged : List α} (later : Merges firsts seconds merged) :
      Merges (item :: firsts) seconds (item :: merged)
  | second {item : α} {firsts seconds merged : List α} (later : Merges firsts seconds merged) :
      Merges firsts (item :: seconds) (item :: merged)

theorem Merges.perm {α : Type} {firsts seconds merged : List α} (merges : Merges firsts seconds merged) :
    merged.Perm (firsts ++ seconds) := by
  induction merges with
  | nil => exact .nil
  | first _ ih => exact ih.cons _
  | second _ ih => exact (ih.cons _).trans List.perm_middle.symm

/-- The order of a list does not matter to a search that finds something in at most one item. -/
theorem findSome?_perm {α β : Type} {find : α → Option β} {items others : List α}
    (perm : items.Perm others) (once : items.countP (fun item => (find item).isSome) ≤ 1) :
    items.findSome? find = others.findSome? find := by
  have hfound : (items.filterMap find).Perm (others.filterMap find) := perm.filterMap find
  rw [← List.length_filterMap_eq_countP] at once
  rw [← List.head?_filterMap, ← List.head?_filterMap]
  cases hitems : items.filterMap find with
  | nil =>
      rw [hitems] at hfound
      rw [hfound.symm.eq_nil]
  | cons found later =>
      obtain rfl : later = [] := by
        rw [hitems, List.length_cons] at once
        exact List.eq_nil_of_length_eq_zero (by omega)
      rw [hitems] at hfound
      rw [List.perm_singleton.mp hfound.symm]

namespace ColumnDefinition

variable {text rest : List Char} {pieces other definitions clauses : List (List Char)}

/-- The body of some pieces. -/
def bodyOf (pieces : List (List Char)) : List Char :=
  [','].intercalate pieces

theorem bodyOf_cons_cons (piece next : List Char) (pieces : List (List Char)) :
    bodyOf (piece :: next :: pieces) = piece ++ ',' :: bodyOf (next :: pieces) := by
  rw [bodyOf, List.intercalate_cons_cons, List.append_assoc]
  rfl

theorem isBalanced_bodyOf (balanced : ∀ piece ∈ pieces, IsBalanced piece) :
    IsBalanced (bodyOf pieces) := by
  induction pieces with
  | nil => decide
  | cons piece rest ih =>
      have hpiece := balanced piece List.mem_cons_self
      cases rest with
      | nil => simpa [bodyOf] using hpiece
      | cons next rest =>
          rw [bodyOf_cons_cons]
          exact hpiece.append_comma (ih fun later hlater => balanced later (List.mem_cons_of_mem _ hlater))

/-- A body of flat pieces is cut into these. -/
theorem cutBody_bodyOf {piece : List Char} (flat : ∀ other ∈ piece :: pieces, IsFlat other) :
    cutBody (bodyOf (piece :: pieces)) = piece :: pieces := by
  induction pieces generalizing piece with
  | nil =>
      have hcut := cutBody_flat (flat piece List.mem_cons_self) []
      rw [List.append_nil] at hcut
      simpa [bodyOf, cutBody] using hcut
  | cons next pieces ih =>
      have hlater : ∀ other ∈ next :: pieces, IsFlat other :=
        fun other hother => flat other (List.mem_cons_of_mem _ hother)
      have hcounts := (isBalanced_bodyOf fun other hother =>
        (hlater other hother).toIsBalanced).closesNext_eq_false
      rw [bodyOf_cons_cons, cutBody_flat (flat piece List.mem_cons_self), cutBody_comma hcounts,
        ih hlater]
      simp

/-- The fragments of a body of flat pieces are those of the pieces. -/
theorem fragmentsOf_bodyOf (flat : ∀ piece ∈ pieces, IsFlat piece) :
    fragmentsOf (cutBody (bodyOf pieces)) = fragmentsOf pieces := by
  cases pieces with
  | nil => rfl
  | cons piece pieces => rw [cutBody_bodyOf flat]

theorem fragmentsOf_cons (piece : List Char) (pieces : List (List Char)) :
    fragmentsOf (piece :: pieces) = fragmentsOf [piece] ++ fragmentsOf pieces := by
  rw [fragmentsOf, fragmentsOf, fragmentsOf, ← List.filter_append, ← List.map_append,
    List.singleton_append]

theorem columnsOf_cons (piece : List Char) (pieces : List (List Char)) :
    columnsOf (piece :: pieces) = columnsOf [piece] ++ columnsOf pieces := by
  rw [columnsOf, fragmentsOf_cons, List.filter_append, columnsOf, columnsOf]

theorem clausesOf_cons (piece : List Char) (pieces : List (List Char)) :
    clausesOf (piece :: pieces) = clausesOf [piece] ++ clausesOf pieces := by
  rw [clausesOf, fragmentsOf_cons, List.filter_append, clausesOf, clausesOf]

/-- A piece that is no table-level clause. -/
def IsDefinition (piece : List Char) : Prop :=
  isTableClause (trim piece) = false

instance (piece : List Char) : Decidable (IsDefinition piece) :=
  inferInstanceAs (Decidable (isTableClause (trim piece) = false))

theorem clausesOf_definition {piece : List Char} (isDefinition : IsDefinition piece) :
    clausesOf [piece] = [] := by
  rw [IsDefinition] at isDefinition
  simp only [clausesOf, fragmentsOf, List.map_cons, List.map_nil, List.filter_cons, List.filter_nil]
  split
  next => simp [isDefinition]
  next => rfl

theorem columnsOf_clause {piece : List Char} (isClause : ¬ IsDefinition piece) :
    columnsOf [piece] = [] := by
  rw [IsDefinition, Bool.not_eq_false] at isClause
  simp only [columnsOf, fragmentsOf, List.map_cons, List.map_nil, List.filter_cons, List.filter_nil]
  split
  next => simp [isClause]
  next => rfl

/-- Merged pieces have the columns of the definitions and the clauses of the others. -/
theorem columnsOf_merged (merges : Merges definitions clauses pieces)
    (areDefinitions : ∀ piece ∈ definitions, IsDefinition piece)
    (areClauses : ∀ piece ∈ clauses, ¬ IsDefinition piece) :
    columnsOf pieces = columnsOf definitions ∧ clausesOf pieces = clausesOf clauses := by
  induction merges with
  | nil => exact ⟨rfl, rfl⟩
  | @first piece definitions clauses merged _ ih =>
      obtain ⟨hpiece, hlater⟩ := List.forall_mem_cons.mp areDefinitions
      obtain ⟨hcolumns, hclauses⟩ := ih hlater areClauses
      refine ⟨?_, ?_⟩
      · rw [columnsOf_cons, hcolumns, ← columnsOf_cons]
      · rw [clausesOf_cons, hclauses, clausesOf_definition hpiece, List.nil_append]
  | @second piece definitions clauses merged _ ih =>
      obtain ⟨hpiece, hlater⟩ := List.forall_mem_cons.mp areClauses
      obtain ⟨hcolumns, hclauses⟩ := ih areDefinitions hlater
      refine ⟨?_, ?_⟩
      · rw [columnsOf_cons, hcolumns, columnsOf_clause hpiece, List.nil_append]
      · rw [clausesOf_cons, hclauses, ← clausesOf_cons]

/-- In how many places of a text a primary key with a bracket begins. -/
def primaryPlaces (text : List Char) : Nat :=
  text.tails.countP fun later => (primaryClause? later).isSome

/-- The bracket of the first primary key in a text that has one. -/
def primaryBracket? (text : List Char) : Option (List Char) :=
  (findAnywhere? primaryClause? text).map Prod.fst

theorem primaryPlaces_cons (c : Char) (text : List Char) : primaryPlaces (c :: text) =
    primaryPlaces text + if (primaryClause? (c :: text)).isSome then 1 else 0 := by
  rw [primaryPlaces, List.tails_cons, List.countP_cons, primaryPlaces]

theorem isSome_primaryBracket?_iff : (primaryBracket? text).isSome = true ↔ 0 < primaryPlaces text := by
  rw [primaryBracket?, Option.isSome_map]
  induction text with
  | nil => decide
  | cons c text ih =>
      rw [findAnywhere?, primaryPlaces_cons, Option.isSome_or, Bool.or_eq_true, ih]
      split <;> simp_all

/-- What a text opens is closed in it. -/
def ClosesBrackets (text : List Char) : Prop :=
  ∀ inside, '(' :: inside <:+ text → ')' ∈ inside

theorem isStop_comma : IsStop ',' :=
  ⟨by decide, by decide, by decide⟩

/-- A primary key does not reach over a comma behind a text that closes what it opens. -/
theorem primaryClause?_comma (closes : ClosesBrackets text) (rest : List Char) :
    primaryClause? (text ++ ',' :: rest) =
      (primaryClause? text).map (Prod.map id (· ++ ',' :: rest)) := by
  rw [primaryClause?, primaryClause?, afterPhrase?_stop isStop_comma rest (by decide)]
  cases hphrase : afterPhrase? ["primary", "key"] text with
  | none => rfl
  | some after =>
      obtain ⟨front, -, hfront⟩ := afterPhrase?_eq_some (by decide) hphrase
      rw [Option.map_some, Option.bind_some, Option.bind_some, Function.comp_apply, Function.comp_apply,
        trimStart_stop isStop_comma, takeBracketed?_eq, takeBracketed?_eq, afterChar?_stop rest (by decide)]
      cases hopening : afterChar? '(' (trimStart after) with
      | none => rfl
      | some inside =>
          have hsuffix : '(' :: inside <:+ text := by
            rw [← afterChar?_eq_some hopening, hfront]
            exact (List.dropWhile_suffix isBlank).trans (List.suffix_append front after)
          obtain ⟨before, behind, rfl, hbefore⟩ := List.eq_append_cons_of_mem (closes inside hsuffix)
          have huntil : untilClosing? (before ++ ')' :: behind) = some (before, behind) := by
            rw [untilClosing?_append, untilClosing?_eq_none hbefore, untilClosing?_cons]
            simp
          rw [Option.map_some, Option.bind_some, Option.bind_some, untilClosing?_append, huntil]
          rfl

theorem ClosesBrackets.suffix {later : List Char} (closes : ClosesBrackets text) (hlater : later <:+ text) :
    ClosesBrackets later :=
  fun inside hinside => closes inside (hinside.trans hlater)

theorem primaryPlaces_comma (closes : ClosesBrackets text) :
    primaryPlaces (text ++ ',' :: rest) = primaryPlaces text + primaryPlaces rest := by
  have hnil : primaryPlaces [] = 0 := by decide
  induction text with
  | nil =>
      have hhere : primaryClause? (',' :: rest) = none := primaryClause?_comma closes rest
      rw [List.nil_append, primaryPlaces_cons, hhere, hnil]
      simp
  | cons c text ih =>
      have hhere := primaryClause?_comma closes rest
      rw [List.cons_append] at hhere
      rw [List.cons_append, primaryPlaces_cons, primaryPlaces_cons, hhere, Option.isSome_map,
        ih (closes.suffix (List.suffix_cons c text))]
      omega

/-- The first primary key of two texts with a comma between them is in the one or else in the other. -/
theorem primaryBracket?_comma (closes : ClosesBrackets text) :
    primaryBracket? (text ++ ',' :: rest) = (primaryBracket? text).or (primaryBracket? rest) := by
  induction text with
  | nil =>
      have hhere : primaryClause? (',' :: rest) = none := primaryClause?_comma closes rest
      have hnil : primaryBracket? [] = none := rfl
      rw [List.nil_append, primaryBracket?, findAnywhere?, hhere, Option.none_or, ← primaryBracket?, hnil,
        Option.none_or]
  | cons c text ih =>
      have hhere := primaryClause?_comma closes rest
      rw [List.cons_append] at hhere
      have hlater := ih (closes.suffix (List.suffix_cons c text))
      rw [primaryBracket?, primaryBracket?] at hlater
      rw [List.cons_append, primaryBracket?, primaryBracket?, findAnywhere?, findAnywhere?, hhere,
        Option.map_or, Option.map_or, hlater, Option.map_map]
      cases primaryClause? (c :: text) <;> rfl

theorem IsBalanced.closesBrackets (balanced : IsBalanced text) : ClosesBrackets text :=
  fun _ hinside => balanced.mem_closing hinside

/-- The first primary key of a body is in the first of its pieces that has one. -/
theorem primaryBracket?_bodyOf (balanced : ∀ piece ∈ pieces, IsBalanced piece) :
    primaryBracket? (bodyOf pieces) = pieces.findSome? primaryBracket? := by
  induction pieces with
  | nil => rfl
  | cons piece rest ih =>
      have hlater := ih fun later hlater => balanced later (List.mem_cons_of_mem _ hlater)
      rw [List.findSome?_cons]
      cases rest with
      | nil =>
          rw [bodyOf, List.intercalate_singleton, List.findSome?_nil]
          cases primaryBracket? piece <;> rfl
      | cons next rest =>
          rw [bodyOf_cons_cons, primaryBracket?_comma (balanced piece List.mem_cons_self).closesBrackets,
            hlater]
          cases primaryBracket? piece <;> rfl

/-- There are no more pieces with a primary key than places in their body. -/
theorem countP_primaryBracket?_le (balanced : ∀ piece ∈ pieces, IsBalanced piece) :
    pieces.countP (fun piece => (primaryBracket? piece).isSome) ≤ primaryPlaces (bodyOf pieces) := by
  induction pieces with
  | nil => exact Nat.zero_le _
  | cons piece rest ih =>
      have hlater := ih fun later hlater => balanced later (List.mem_cons_of_mem _ hlater)
      have hpiece : (if (primaryBracket? piece).isSome = true then 1 else 0) ≤ primaryPlaces piece := by
        split
        next hsome => exact isSome_primaryBracket?_iff.mp hsome
        next => exact Nat.zero_le _
      rw [List.countP_cons]
      cases rest with
      | nil => simpa [bodyOf] using hpiece
      | cons next rest =>
          rw [bodyOf_cons_cons, primaryPlaces_comma (balanced piece List.mem_cons_self).closesBrackets]
          omega

/-- The order of the pieces does not matter to the primary key if there is at most one. -/
theorem primaryName?_perm (balanced : ∀ piece ∈ pieces, IsBalanced piece) (perm : pieces.Perm other)
    (once : primaryPlaces (bodyOf pieces) ≤ 1) :
    primaryName? (bodyOf pieces) = primaryName? (bodyOf other) := by
  have hname : ∀ body, primaryName? body = (primaryBracket? body).bind leadingName? := by
    intro body
    rw [primaryName?_eq, primaryBracket?, Option.bind_map]
    rfl
  have hfound : primaryBracket? (bodyOf pieces) = primaryBracket? (bodyOf other) := by
    rw [primaryBracket?_bodyOf balanced,
      primaryBracket?_bodyOf fun piece hpiece => balanced piece (perm.mem_iff.mpr hpiece)]
    exact findSome?_perm perm ((countP_primaryBracket?_le balanced).trans once)
  rw [hname, hname, hfound]

/-- A column without what table-level clauses say of it. -/
def unkeyed (column : ColumnDefinition) : ColumnDefinition :=
  { column with key := .none, reference := none }

theorem unkeyed_keeps {before after : ColumnDefinition} (keeps : KeepsClauses before after) :
    unkeyed after = unkeyed before := by
  simp only [unkeyed, keeps.name, keeps.type, keeps.nullable, keeps.default, keeps.autoIncrement]

/-- The columns of a body apart from what table-level clauses say are those of its definitions. -/
theorem map_unkeyed_readBody_congr {body body' : List Char}
    (hcolumns : columnsOf (cutBody body) = columnsOf (cutBody body')) :
    (readBody body).map unkeyed = (readBody body').map unkeyed := by
  have hkey : ∀ primaryName hasPrimary name type clauses,
      unkeyed (ofClauses primaryName hasPrimary name type clauses) =
        unkeyed (ofClauses none false name type clauses) :=
    fun _ _ _ _ _ => rfl
  rw [map_readBody unkeyed_keeps hkey, map_readBody unkeyed_keeps hkey, hcolumns]

/-- Where table-level clauses stand among the definitions of a body does not matter, as long as the
definitions keep their order and the clauses theirs. Whatever the clauses say, the columns are those of
the definitions alone but for keys and references, and at most one is the primary key. -/
theorem clauses_stand_anywhere
    (flat : ∀ piece ∈ definitions ++ clauses, IsFlat piece)
    (areDefinitions : ∀ piece ∈ definitions, IsDefinition piece)
    (areClauses : ∀ piece ∈ clauses, ¬ IsDefinition piece)
    (merges : Merges definitions clauses pieces) (once : primaryPlaces (bodyOf pieces) ≤ 1) :
    (∀ other, Merges definitions clauses other → readBody (bodyOf other) = readBody (bodyOf pieces)) ∧
      (readBody (bodyOf pieces)).map unkeyed = (readBody (bodyOf definitions)).map unkeyed ∧
      primaryCount (readBody (bodyOf pieces)) ≤ 1 := by
  have hflat : ∀ {other}, Merges definitions clauses other → ∀ piece ∈ other, IsFlat piece :=
    fun merges' piece hpiece => flat piece (merges'.perm.mem_iff.mp hpiece)
  have hfragments : ∀ {other}, Merges definitions clauses other →
      columnsOf (cutBody (bodyOf other)) = columnsOf definitions ∧
        clausesOf (cutBody (bodyOf other)) = clausesOf clauses := by
    intro other merges'
    rw [columnsOf, clausesOf, fragmentsOf_bodyOf (hflat merges')]
    exact columnsOf_merged merges' areDefinitions areClauses
  refine ⟨fun other merges' => ?_, ?_, primaryCount_readBody_le_one _⟩
  · have hprimary := primaryName?_perm (fun piece hpiece => (hflat merges piece hpiece).toIsBalanced)
      (merges.perm.trans merges'.perm.symm) once
    rw [readBody_eq, readBody_eq, (hfragments merges').1, (hfragments merges').2,
      (hfragments merges).1, (hfragments merges).2, hprimary]
  · apply map_unkeyed_readBody_congr
    have hdefinitions : ∀ piece ∈ definitions, IsFlat piece :=
      fun piece hpiece => flat piece (List.mem_append_left _ hpiece)
    rw [(hfragments merges).1, columnsOf, columnsOf, fragmentsOf_bodyOf hdefinitions]

/-- The columns of a table of people. -/
def peopleDefinitions : List (List Char) :=
  ["id int AUTO_INCREMENT".toList, " dept int".toList, " email varchar(50) DEFAULT NULL".toList]

/-- The keys of that table. -/
def peopleClauses : List (List Char) :=
  [" PRIMARY KEY (`id`, dept)".toList, " UNIQUE KEY by_email (email)".toList,
    " FOREIGN KEY (dept) REFERENCES departments(dept_id)".toList]

/-- The columns and the keys of that table in turn. -/
def peoplePieces : List (List Char) :=
  ["id int AUTO_INCREMENT".toList, " PRIMARY KEY (`id`, dept)".toList,
    " UNIQUE KEY by_email (email)".toList, " dept int".toList,
    " FOREIGN KEY (dept) REFERENCES departments(dept_id)".toList,
    " email varchar(50) DEFAULT NULL".toList]

theorem peopleClauses_stand_anywhere :
    (∀ piece ∈ peopleDefinitions ++ peopleClauses, IsFlat piece) ∧
    (∀ piece ∈ peopleDefinitions, IsDefinition piece) ∧ (∀ piece ∈ peopleClauses, ¬ IsDefinition piece) ∧
    Merges peopleDefinitions peopleClauses peoplePieces ∧ primaryPlaces (bodyOf peoplePieces) ≤ 1 ∧
    readBody (bodyOf (peopleDefinitions ++ peopleClauses)) = readBody (bodyOf peoplePieces) := by
  have flat : ∀ piece ∈ peopleDefinitions ++ peopleClauses, IsFlat piece := by decide +kernel
  have areDefinitions : ∀ piece ∈ peopleDefinitions, IsDefinition piece := by decide +kernel
  have areClauses : ∀ piece ∈ peopleClauses, ¬ IsDefinition piece := by decide +kernel
  have merges : Merges peopleDefinitions peopleClauses peoplePieces :=
    .first (.second (.second (.first (.second (.first .nil)))))
  have inOrder : Merges peopleDefinitions peopleClauses (peopleDefinitions ++ peopleClauses) :=
    .first (.first (.first (.second (.second (.second .nil)))))
  have once : primaryPlaces (bodyOf peoplePieces) ≤ 1 := by decide +kernel
  exact ⟨flat, areDefinitions, areClauses, merges, once,
    (clauses_stand_anywhere flat areDefinitions areClauses merges once).1 _ inOrder⟩

end ColumnDefinition

end MockSql
