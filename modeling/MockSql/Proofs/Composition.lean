/-
# Scripts in parts

A script does what its statements do one after the other. So two scripts with a semicolon between
them do what the one does and then the other; a session that stops at failures runs the beginning
of what a session that goes on runs, up to and with the first failure; and the current database at
the end is the one that the last of the executed statements names that is read as choosing one.
-/

import MockSql.Proofs.Dispatch
import MockSql.Session

namespace MockSql

-- What a statement does is of no concern here.
attribute [local irreducible] Server.execute

/-- The statements of two scripts with a semicolon between them are those of the one and then those
of the other. -/
theorem statementsOf_append (first second : String) :
    statementsOf (first ++ ";" ++ second) = statementsOf first ++ statementsOf second := by
  have htext : (first ++ ";" ++ second).toList = first.toList ++ ';' :: second.toList := by simp
  rw [statementsOf, htext, List.splitOn_append_cons_self]
  simp [statementsOf]

namespace Session

/-- The session, made to stop at failures or to go on after them. -/
def stopping (session : Session) (stopOnError : Bool) : Session :=
  { session with stopOnError }

variable {session : Session} {stopOnError : Bool} {query : String} {rest : List String}

/-- A run that does not stop at its first statement goes on with what that one leaves. -/
theorem executeAll_go (hgo : (session.execute query).1.succeeded = true ∨ stopOnError = false) :
    (session.stopping stopOnError).executeAll (query :: rest) =
      (let (reports, last) := ((session.execute query).2.stopping stopOnError).executeAll rest
      ((session.execute query).1 :: reports, last)) := by
  have hstays : (!(session.execute query).1.succeeded && stopOnError) = false := by
    rcases hgo with hgo | hgo <;> simp [hgo]
  exact if_neg (Bool.eq_false_iff.mp hstays)

/-- A run that stops at its first statement has only that one's report. -/
theorem executeAll_stop (hfailed : (session.execute query).1.succeeded = false) :
    (session.stopping true).executeAll (query :: rest) =
      ([(session.execute query).1], (session.execute query).2.stopping true) := by
  have hstops : (!(session.execute query).1.succeeded && true) = true := by simp [hfailed]
  exact if_pos hstops

/-- A session that goes on after failures runs two lists of statements one after the other. -/
theorem executeAll_append (session : Session) (first second : List String) :
    (session.stopping false).executeAll (first ++ second) =
      (let (early, mid) := (session.stopping false).executeAll first
      let (late, last) := mid.executeAll second
      (early ++ late, last)) := by
  induction first generalizing session with
  | nil => rfl
  | cons query rest ih =>
      rw [List.cons_append, executeAll_go (.inr rfl), executeAll_go (.inr rfl),
        ih (session.execute query).2]
      rfl

/-- A session that stops at failures gives the reports up to the first failure of the session that
goes on, and is left as the statements of these reports leave that one. -/
theorem executeAll_stopping (session : Session) (queries : List String) :
    let reports := ((session.stopping false).executeAll queries).1
    let count := reports.findIdx (!·.succeeded) + 1
    (session.stopping true).executeAll queries =
      (reports.take count,
        ((session.stopping false).executeAll (queries.take count)).2.stopping true) := by
  induction queries generalizing session with
  | nil => rfl
  | cons query rest ih =>
      intro reports count
      let later := (((session.execute query).2.stopping false).executeAll rest).1
      have hreports : reports = (session.execute query).1 :: later :=
        congrArg Prod.fst (executeAll_go (.inr rfl))
      cases hfirst : (session.execute query).1.succeeded with
      | true =>
          have hcount : count = later.findIdx (!·.succeeded) + 1 + 1 := by
            simp [count, hreports, List.findIdx_cons, hfirst]
          rw [executeAll_go (.inl hfirst), ih, hcount, hreports, List.take_succ_cons,
            List.take_succ_cons, executeAll_go (.inr rfl)]
      | false =>
          have hcount : count = 1 := by
            simp [count, hreports, List.findIdx_cons, hfirst]
          rw [executeAll_stop hfirst, hcount, hreports, List.take_succ_cons, List.take_succ_cons,
            List.take_zero, List.take_zero, executeAll_go (.inr rfl)]
          rfl

/-- The current database after a run is what the statements that were run make of it. -/
theorem current_executeAll (session : Session) (stopOnError : Bool) (queries : List String) :
    let (reports, last) := (session.stopping stopOnError).executeAll queries
    last.current = (queries.take reports.length).foldl currentAfter session.current := by
  induction queries generalizing session with
  | nil => rfl
  | cons query rest ih =>
      by_cases hgo : (session.execute query).1.succeeded = true ∨ stopOnError = false
      · rw [executeAll_go hgo]
        exact ih (session.execute query).2
      · obtain ⟨hfailed, hstops⟩ := not_or.mp hgo
        rw [eq_true_of_ne_false hstops, executeAll_stop (Bool.eq_false_iff.mpr hfailed)]
        rfl

/-- Several statements choose the database that the last of them names that names one. -/
theorem foldl_currentAfter (current : Current) (queries : List String) :
    queries.foldl currentAfter current =
      ((queries.filterMap Statement.used?).getLast?.map .named).getD current := by
  induction queries generalizing current with
  | nil => rfl
  | cons query rest ih =>
      rw [List.foldl_cons, ih, currentAfter, Statement.chosenDatabase?_eq_used?]
      cases hused : Statement.used? query with
      | none => rw [List.filterMap_cons_none hused]
      | some name =>
          rw [List.filterMap_cons_some hused, List.getLast?_cons]
          cases (rest.filterMap Statement.used?).getLast? <;> rfl

/-- Scripts compose. A session that goes on after failures does with two scripts joined by a
semicolon what it does with the one and then with the other. A session that stops gives the reports
up to the first failure of one that goes on, and is left as it is after these statements. Either way
the current database becomes the one that the last executed statement names that is read as choosing
a database, whether it succeeds or not. -/
theorem scripts_compose (session : Session) (first second script : String) :
    (session.stopping false).executeScript (first ++ ";" ++ second) =
        (let (early, mid) := (session.stopping false).executeScript first
        let (late, last) := mid.executeScript second
        (early ++ late, last)) ∧
      (let reports := ((session.stopping false).executeScript script).1
      let count := reports.findIdx (!·.succeeded) + 1
      (session.stopping true).executeScript script =
        (reports.take count, ((session.stopping false).executeAll
          ((statementsOf script).take count)).2.stopping true)) ∧
      (let (reports, last) := session.executeScript script
      let executed := (statementsOf script).take reports.length
      last.current =
        ((executed.filterMap Statement.used?).getLast?.map .named).getD session.current) := by
  refine ⟨?_, ?_, ?_⟩
  · rw [executeScript, statementsOf_append, executeAll_append]
    rfl
  · exact executeAll_stopping session (statementsOf script)
  · have hcurrent := session.current_executeAll session.stopOnError (statementsOf script)
    exact hcurrent.trans (foldl_currentAfter _ _)

end Session

end MockSql
