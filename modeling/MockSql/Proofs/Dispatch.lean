/-
# One shape for a text

Each shape begins with a phrase, and the phrases of two shapes differ in a letter. So a text is of
one shape at most, and it does not matter in which order the shapes are tried: what a text is read
as is what its one shape makes of it. In particular a text whose shape finds no statement in it is
none.
-/

import Mathlib.Data.List.Pairwise
import MockSql.Proofs.Keywords
import MockSql.Proofs.Readings

namespace MockSql

open MockSql.Text

namespace Shape

/-- A text of the shape begins with the phrase. -/
def BeginsWith (shape : Shape) (words : List String) : Prop :=
  ∀ text, afterPhrase? words text = none → shape text = none

theorem phrase_beginsWith (words : List String) (statement : Statement) :
    (phrase words statement).BeginsWith words := by
  intro text hnone
  simp [phrase, hnone]

theorem phraseAndName_beginsWith (words : List String) (build : String → Statement) :
    (phraseAndName words build).BeginsWith words := by
  intro text hnone
  simp [phraseAndName, hnone]

/-- The shapes with the phrases that they begin with. -/
def withPhrases : List (List String × Shape) := [
  (["show", "databases"], showDatabases), (["create", "database"], createDatabase),
  (["drop", "database"], dropDatabase), (["use"], use), (["show", "tables"], showTables),
  (["create", "table"], createTable), (["drop", "table"], dropTable),
  (["truncate", "table"], truncateTable), (["rename", "table"], renameTable),
  (["alter", "table"], alterTable), (["select"], select), (["insert", "into"], insert),
  (["update"], update), (["delete", "from"], delete)]

theorem shapes_eq : Statement.shapes = withPhrases.map Prod.snd :=
  rfl

theorem withPhrases_beginsWith : ∀ entry ∈ withPhrases, entry.2.BeginsWith entry.1 := by
  simp only [withPhrases, List.forall_mem_cons, List.not_mem_nil, false_imp_iff, implies_true,
    and_true]
  refine ⟨phrase_beginsWith _ _, phraseAndName_beginsWith _ _, phraseAndName_beginsWith _ _,
    phraseAndName_beginsWith _ _, phrase_beginsWith _ _, ?_, phraseAndName_beginsWith _ _,
    phraseAndName_beginsWith _ _, ?_, ?_, ?_, ?_, ?_, ?_⟩
  · intro text hnone
    simp [createTable, hnone]
  · intro text hnone
    simp [renameTable, hnone]
  · intro text hnone
    simp [alterTable, hnone]
  · intro text hnone
    simp [select, hnone]
  · intro text hnone
    simp [insert, takeInsertion?, hnone]
  · intro text hnone
    simp [update, hnone]
  · intro text hnone
    simp [delete, hnone]

theorem withPhrases_differ :
    withPhrases.Pairwise fun entry other => phrasesDiffer entry.1 other.1 = true := by
  decide

theorem withPhrases_isKeyword : ∀ entry ∈ withPhrases, ∀ word ∈ entry.1, IsKeyword word := by
  decide

/-- At most one of two shapes matches a text. -/
def NotBothAt (text : List Char) (shape other : Shape) : Prop :=
  shape text = none ∨ other text = none

instance (text : List Char) : Std.Symm (NotBothAt text) :=
  ⟨fun _ _ => Or.symm⟩

/-- At most one of several shapes matches a text. -/
def ExclusiveAt (text : List Char) (shapes : List Shape) : Prop :=
  shapes.Pairwise (NotBothAt text)

theorem exclusiveAt_shapes (text : List Char) : ExclusiveAt text Statement.shapes := by
  rw [ExclusiveAt, shapes_eq, List.pairwise_map]
  refine withPhrases_differ.imp_of_mem fun {entry other} hentry hother differ => ?_
  cases hphrase : afterPhrase? entry.1 text with
  | none => exact .inl (withPhrases_beginsWith entry hentry text hphrase)
  | some rest =>
      have hnone : afterPhrase? other.1 text = none :=
        not_both_phrases (withPhrases_isKeyword entry hentry) (withPhrases_isKeyword other hother)
          differ hphrase
      exact .inr (withPhrases_beginsWith other hother text hnone)

end Shape

/-- What a text is read as if a shape makes this of it; a shape that declines decides nothing. -/
def Reading.result? : Reading → Option (Except Fault Statement)
  | .statement found => some (.ok found)
  | .unreadable fault => some (.error fault)
  | .declined => none

namespace Statement

variable {order : List Shape} {text : List Char} {shape : Shape} {reading : Reading}

/-- Shapes are tried until one decides. -/
theorem readWith_eq_findSome? (order : List Shape) (text : List Char) :
    readWith order text = order.findSome? fun shape => (shape text).bind Reading.result? := by
  induction order with
  | nil => rfl
  | cons shape rest ih =>
      rw [readWith, List.findSome?_cons, ← ih]
      cases shape text with
      | none => rfl
      | some reading => cases reading <;> rfl

/-- If no two shapes match, a text is read as what the one shape that matches makes of it. -/
theorem readWith_of_mem (exclusive : Shape.ExclusiveAt text order) (hshape : shape ∈ order)
    (h : shape text = some reading) : readWith order text = reading.result? := by
  have hothers : ∀ other ∈ order, other text = none ∨ other text = some reading := by
    intro other hother
    by_cases heq : other = shape
    · exact .inr (heq ▸ h)
    · have hnone := exclusive.forall hother hshape heq
      rw [Shape.NotBothAt, h] at hnone
      exact .inl (hnone.resolve_right (Option.some_ne_none reading))
  rw [readWith_eq_findSome?]
  cases hresult : reading.result? with
  | none =>
      rw [List.findSome?_eq_none_iff]
      intro other hother
      rcases hothers other hother with hnone | hsome
      · simp [hnone]
      · simp [hsome, hresult]
  | some result =>
      have hdecided : (order.findSome? fun other => (other text).bind Reading.result?).isSome := by
        rw [List.findSome?_isSome_iff]
        exact ⟨shape, hshape, by simp [h, hresult]⟩
      obtain ⟨found, hfound⟩ := Option.isSome_iff_exists.mp hdecided
      obtain ⟨other, hother, hreads⟩ := List.exists_of_findSome?_eq_some hfound
      rcases hothers other hother with hnone | hsome
      · simp [hnone] at hreads
      · rw [hfound, ← hreads, hsome, Option.bind_some, hresult]

theorem readWith_eq_none (h : ∀ shape ∈ order, shape text = none) : readWith order text = none := by
  rw [readWith_eq_findSome?, List.findSome?_eq_none_iff]
  intro shape hshape
  simp [h shape hshape]

/-- The order of such shapes does not matter. -/
theorem readWith_perm {shapes : List Shape} (perm : order.Perm shapes)
    (exclusive : Shape.ExclusiveAt text shapes) : readWith order text = readWith shapes text := by
  have hexclusive : Shape.ExclusiveAt text order :=
    (perm.pairwise_iff fun h => h.symm).mpr exclusive
  by_cases hmatch : ∃ shape ∈ shapes, ∃ reading, shape text = some reading
  · obtain ⟨shape, hshape, reading, h⟩ := hmatch
    rw [readWith_of_mem exclusive hshape h, readWith_of_mem hexclusive (perm.mem_iff.mpr hshape) h]
  · have hnone : ∀ shape ∈ shapes, shape text = none := by
      intro shape hshape
      rw [Option.eq_none_iff_forall_ne_some]
      exact fun reading h => hmatch ⟨shape, hshape, reading, h⟩
    rw [readWith_eq_none hnone, readWith_eq_none fun shape h => hnone shape (perm.mem_iff.mp h)]

/-- A text is a statement exactly when the shape for statements of its kind makes it. -/
theorem read_eq_ok_iff {query : String} {statement : Statement} :
    read query = .ok statement ↔
      statement.shape (strip query.toList) = some (.statement statement) := by
  constructor
  · intro h
    obtain ⟨shape, hshape, hfound⟩ := read_eq_ok h
    rwa [shape_eq_of_mem_shapes hshape hfound]
  · intro h
    rw [read, readWith_of_mem (Shape.exclusiveAt_shapes _) (shape_mem_shapes statement) h]
    rfl

/-- A text is read as the shape makes it that matches, whether its literals can be read or not. -/
theorem read_of_ofExcept {shape : Shape} {query : String} {result : Except Fault Statement}
    (hshape : shape ∈ shapes) (h : shape (strip query.toList) = some (.ofExcept result)) :
    read query = result := by
  rw [read, readWith_of_mem (Shape.exclusiveAt_shapes _) hshape h]
  cases result <;> rfl

/-- A text is recognised as choosing a database exactly when it is read as doing so. -/
theorem chosenDatabase?_eq_used? (query : String) : chosenDatabase? query = used? query := by
  apply Option.ext
  intro name
  have hused : used? query = some name ↔ read query = .ok (.use name) := by
    unfold used?
    cases read query with
    | error fault => simp
    | ok statement => cases statement <;> simp
  rw [hused, read_eq_ok_iff, chosenDatabase?, shape]
  split
  next found huse => simp [huse]
  next hother =>
    simp only [reduceCtorEq, false_iff]
    exact hother name

/-- The statement that a text is, or why it is none, if the shapes are tried in a given order. -/
def readInOrder (order : List Shape) (query : String) : Except Fault Statement :=
  (readWith order (strip query.toList)).getD
    (.error (.unsupported (String.ofList (normalize query.toList))))

/-- Of the fourteen shapes at most one matches a text; so a text is read as the same in whatever
order they are tried, and a text whose shape finds no statement in it is unsupported. -/
theorem one_shape_for_a_text :
    shapes.length = 14 ∧ (∀ text, Shape.ExclusiveAt text shapes) ∧
      (∀ order, order.Perm shapes → ∀ query, readInOrder order query = read query) ∧
      ∀ shape ∈ shapes, ∀ query, shape (strip query.toList) = some .declined →
        read query = .error (.unsupported (String.ofList (normalize query.toList))) := by
  refine ⟨rfl, Shape.exclusiveAt_shapes, ?_, ?_⟩
  · intro order perm query
    rw [readInOrder, readWith_perm perm (Shape.exclusiveAt_shapes _), read]
  · intro shape hshape query hdeclined
    rw [read, readWith_of_mem (Shape.exclusiveAt_shapes _) hshape hdeclined]
    rfl

/-- A list of values that is not closed and a change of columns that names none: each has a shape
that finds no statement in it, so they are unsupported, also with the shapes tried backwards. -/
theorem one_shape_for_a_text_of_unfinished :
    let insertion := "INSERT INTO t VALUES ('a)"
    let change := " Alter Table `t` SELECT "
    Shape.insert (strip insertion.toList) = some .declined ∧
      Shape.alterTable (strip change.toList) = some .declined ∧
      read insertion = .error (.unsupported "insert into t values ('a)") ∧
      readInOrder shapes.reverse change = .error (.unsupported "alter table `t` select") := by
  intro insertion change
  have hinsertion : Shape.insert (strip insertion.toList) = some .declined := by decide +kernel
  have hchange : Shape.alterTable (strip change.toList) = some .declined := by decide +kernel
  obtain ⟨-, -, horder, hdeclines⟩ := one_shape_for_a_text
  refine ⟨hinsertion, hchange, ?_, ?_⟩
  · rw [hdeclines Shape.insert (by simp [shapes]) insertion hinsertion]
    decide +kernel
  · rw [horder _ shapes.reverse_perm, hdeclines Shape.alterTable (by simp [shapes]) change hchange]
    decide +kernel

end Statement

end MockSql
