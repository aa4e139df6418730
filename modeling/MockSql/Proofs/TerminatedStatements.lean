/-
# Terminated statements

A shell runs what has been typed whenever a line with a semicolon is complete. So it runs what a session
runs for the lines up to the last semicolon, if every line with a semicolon has another one at its end: a
line break ends a statement that is begun behind a semicolon. As long as the lines with semicolons end
with one, this adds nothing, and exactly the terminated statements are run.
-/

import MockSql.Proofs.Composition
import MockSql.Proofs.Conversations

namespace MockSql

open MockSql.Text

-- What a statement does is of no concern here.
attribute [local irreducible] Server.execute

/-- A text up to its last semicolon. -/
def terminated (text : String) : String :=
  String.ofList (dropWhileEnd (· != ';') text.toList)

theorem terminated_append (before after : String) :
    terminated (before ++ ";" ++ after) = before ++ ";" ++ terminated after := by
  have hchars : (before ++ ";" ++ after).toList = before.toList ++ ';' :: after.toList := by simp
  have hstop : dropWhileEnd (· != ';') (before.toList ++ ';' :: after.toList) =
      before.toList ++ ';' :: dropWhileEnd (· != ';') after.toList :=
    dropWhileEnd_append_stop (by decide) _ _
  rw [terminated, hchars, hstop, terminated, ← String.toList_inj]
  simp

theorem terminated_eq_empty {text : String} (hnone : hasSemicolon text = false) :
    terminated text = "" := by
  have houter : ∀ c ∈ text.toList, (c != ';') = true := by
    apply forall_bne_of_not_mem
    simpa [hasSemicolon] using hnone
  have hdropped := dropWhileEnd_append_outer houter []
  rw [List.nil_append] at hdropped
  rw [terminated, hdropped]
  rfl

theorem exists_append_of_hasSemicolon {text : String} (hsemicolon : hasSemicolon text = true) :
    ∃ before after, text = before ++ ";" ++ after := by
  have hmem : ';' ∈ text.toList := by simpa [hasSemicolon] using hsemicolon
  obtain ⟨before, after, htext⟩ := List.append_of_mem hmem
  refine ⟨String.ofList before, String.ofList after, ?_⟩
  rw [← String.toList_inj, htext]
  simp

/-- A line break before a text is not part of a statement. -/
theorem statementsOf_break (text : String) : statementsOf ("\n" ++ text) = statementsOf text := by
  have hblank : ∀ c ∈ ['\n'], isBlank c = true := by decide
  have hbreak : ∀ piece, trim ('\n' :: piece) = trim piece := stripWhile_append hblank
  have hchars : ("\n" ++ text).toList = '\n' :: text.toList := by simp
  obtain ⟨piece, pieces, hpieces⟩ := List.exists_cons_of_ne_nil (List.splitOn_ne_nil ';' text.toList)
  have hsplit : ('\n' :: text.toList).splitOn ';' = ('\n' :: piece) :: pieces := by
    rw [List.splitOn_cons_eq_if_modifyHead, if_neg (by decide), hpieces, List.modifyHead_cons]
  rw [statementsOf, statementsOf, hchars, hsplit, hpieces, List.map_cons, List.map_cons, hbreak]

/-- Neither is it part of a terminated one. -/
theorem statementsOf_terminated_break (text : String) :
    statementsOf (terminated ("\n" ++ text)) = statementsOf (terminated text) := by
  cases hsemicolon : hasSemicolon text with
  | true =>
      obtain ⟨before, after, rfl⟩ := exists_append_of_hasSemicolon hsemicolon
      have hfirst : "\n" ++ (before ++ ";" ++ after) = ("\n" ++ before) ++ ";" ++ after := by
        simp [String.append_assoc]
      rw [hfirst, terminated_append, terminated_append, statementsOf_append, statementsOf_append,
        statementsOf_break]
  | false =>
      have hbreak : hasSemicolon ("\n" ++ text) = false := by
        simpa [hasSemicolon] using hsemicolon
      rw [terminated_eq_empty hsemicolon, terminated_eq_empty hbreak]

/-- The script of some lines: what stands up to the last semicolon. -/
def scriptOf (lines : List String) : String :=
  terminated (joinLines lines)

theorem exists_joinLines_concat (lines : List String) :
    ∃ before, ∀ line, joinLines (lines ++ [line]) = before ++ line := by
  cases lines with
  | nil => exact ⟨"", fun line => by simp [joinLines]⟩
  | cons first rest =>
      refine ⟨joinLines (first :: rest) ++ "\n", fun line => ?_⟩
      rw [joinLines, String.intercalate_append_of_ne_nil (by simp) (by simp),
        String.intercalate_singleton, joinLines]

theorem hasSemicolon_joinLines {lines : List String}
    (hopen : ∀ line ∈ lines, hasSemicolon line = false) : hasSemicolon (joinLines lines) = false := by
  induction lines with
  | nil => decide
  | cons first rest ih =>
      obtain ⟨hfirst, hrest⟩ := List.forall_mem_cons.mp hopen
      have hlater := ih hrest
      cases rest with
      | nil => simpa [joinLines] using hfirst
      | cons next rest =>
          rw [joinLines, hasSemicolon] at hlater
          rw [hasSemicolon] at hfirst
          rw [joinLines, String.intercalate_cons_cons, hasSemicolon]
          simp_all

/-- A line that ends with a semicolon ends a script, and the lines behind are another. -/
theorem statementsOf_scriptOf_closed (pending texts : List String) (body : String) :
    statementsOf (scriptOf (pending ++ (body ++ ";") :: texts)) =
      statementsOf (joinLines (pending ++ [body])) ++ statementsOf (scriptOf texts) := by
  have hline : joinLines (pending ++ [body ++ ";"]) = joinLines (pending ++ [body]) ++ ";" := by
    obtain ⟨before, hbefore⟩ := exists_joinLines_concat pending
    rw [hbefore, hbefore, String.append_assoc]
  have hjoined : ∃ behind, joinLines (pending ++ (body ++ ";") :: texts) =
      joinLines (pending ++ [body]) ++ ";" ++ behind ∧
        statementsOf (terminated behind) = statementsOf (scriptOf texts) := by
    cases texts with
    | nil => exact ⟨"", by rw [hline, String.append_empty], rfl⟩
    | cons next texts =>
        refine ⟨"\n" ++ joinLines (next :: texts), ?_, statementsOf_terminated_break _⟩
        rw [List.append_cons, joinLines, String.intercalate_append_of_ne_nil (by simp) (by simp),
          ← joinLines, hline, ← joinLines]
        simp only [String.append_assoc]
  obtain ⟨behind, hscript, hbehind⟩ := hjoined
  rw [scriptOf, hscript, terminated_append, statementsOf_append, hbehind]

/-- The ways of ending a line: one with a semicolon ends with a semicolon behind which it says nothing
more. -/
inductive Closes : String → String → Prop
  | keep {line : String} (hopen : hasSemicolon line = false) : Closes line line
  | close {line body : String} (hclosed : hasSemicolon line = true)
      (hsame : ∀ before, statementsOf (before ++ body) = statementsOf (before ++ line)) :
      Closes line (body ++ ";")

/-- A line, with a semicolon at its end if it has one. -/
def closeLine (line : String) : String :=
  if hasSemicolon line then line ++ ";" else line

/-- Whether a line ends with a semicolon. -/
def endsWithSemicolon (line : String) : Bool :=
  line.toList.getLast? == some ';'

theorem closes_closeLine (line : String) : Closes line (closeLine line) := by
  rw [closeLine]
  cases hline : hasSemicolon line with
  | true => exact .close hline fun _ => rfl
  | false => exact .keep hline

/-- A line that ends with a semicolon says nothing behind it. -/
theorem closes_self {line : String} (hends : hasSemicolon line = true → endsWithSemicolon line = true) :
    Closes line line := by
  cases hline : hasSemicolon line with
  | true =>
      obtain ⟨chars, hchars⟩ := List.getLast?_eq_some_iff.mp (beq_iff_eq.mp (hends hline))
      obtain ⟨body, rfl⟩ : ∃ body, line = body ++ ";" := by
        refine ⟨String.ofList chars, ?_⟩
        rw [← String.toList_inj, hchars]
        simp
      refine .close hline fun before => ?_
      have hnothing : statementsOf "" = [] := rfl
      rw [← String.append_assoc, ← String.append_empty (s := before ++ body ++ ";"),
        statementsOf_append, hnothing, List.append_nil]
  | false => exact .keep hline

theorem renderReports_append (first second : List Report) : renderReports (first ++ second) =
    renderReports first >>= fun text => (renderReports second).map (text ++ ·) := by
  rw [renderReports, renderReports, renderReports, List.mapM_append]
  cases first.mapM Report.render with
  | error fault => rfl
  | ok texts =>
      rw [bind_ok, bind_ok, bind_ok]
      cases second.mapM Report.render with
      | error fault => rfl
      | ok later => exact congrArg Except.ok String.join_append

namespace Session

variable {session : Session}

/-- What is shown for two lists of statements is shown for the one and then for the other. -/
theorem showAll_append (goesOn : session.stopOnError = false) (first second : List String) :
    session.showAll (first ++ second) = session.showAll first >>= fun (text, between) =>
      (between.showAll second).map fun (later, last) => (text ++ later, last) := by
  have hsession : session.stopping false = session := by rw [← goesOn, stopping]
  have happend := executeAll_append session first second
  rw [hsession] at happend
  rw [showAll, happend, showAll]
  simp only [renderReports_append]
  cases renderReports (session.executeAll first).1 with
  | error fault => rfl
  | ok text =>
      simp only [showAll, Except.map, bind_ok]
      cases renderReports ((session.executeAll first).2.executeAll second).1 <;> rfl

/-- So a closed line divides what is shown for a script. -/
theorem showScript_closed {line body : String} (goesOn : session.stopOnError = false)
    (hsame : ∀ before, statementsOf (before ++ body) = statementsOf (before ++ line))
    (pending texts : List String) :
    session.showScript (scriptOf (pending ++ (body ++ ";") :: texts)) =
      session.showScript (joinLines (pending ++ [line])) >>= fun (text, between) =>
        (between.showScript (scriptOf texts)).map fun (later, last) => (text ++ later, last) := by
  obtain ⟨before, hbefore⟩ := exists_joinLines_concat pending
  rw [showScript, statementsOf_scriptOf_closed, hbefore, hsame, ← hbefore, showAll_append goesOn]
  rfl

theorem stopOnError_of_showScript {script text : String} {last : Session}
    (h : session.showScript script = .ok (text, last)) : last.stopOnError = session.stopOnError := by
  obtain ⟨_, -, heq⟩ := map_eq_ok_iff.mp h
  cases heq
  exact (executeAll_keeps _ _).2

end Session

namespace Shell

variable {shell next : Shell} {typed : String} {lines texts : List String}

/-- What a shell shows for some lines apart from its prompts, and the session afterwards unless the shell
has ended. -/
def answers (shell : Shell) (lines : List String) : Except Fault (String × Option Session) :=
  (shell.proceed lines).map fun (shown, last) =>
    (String.join (shown.map Prod.snd), last.map (·.session))

/-- A line that belongs to a statement is answered, and then the others are. -/
theorem answers_cons {output : String} (h : shell.enter typed = .ok ⟨output, some next⟩)
    (lines : List String) : shell.answers (typed :: lines) =
      (next.answers lines).map fun (text, last) => (output ++ text, last) := by
  have hproceed : shell.proceed (typed :: lines) =
      (next.proceed lines).map fun (shown, last) => ((shell.prompt, output) :: shown, last) := by
    rw [proceed, h, bind_ok]
    simp only
    cases next.proceed lines <;> rfl
  rw [answers, hproceed, answers]
  cases next.proceed lines with
  | error fault => rfl
  | ok conversation => simp only [Except.map, List.map_cons, String.join_cons]

theorem answers_open (hgather : shell.pending = [] → beginsWithDot typed = false)
    (hopen : hasSemicolon typed = false) : shell.answers (typed :: lines) =
      { shell with pending := shell.pending ++ [trimmedLine typed] }.answers lines := by
  rw [answers_cons (enter_open hgather hopen)]
  cases answers _ lines with
  | error fault => rfl
  | ok answered => simp only [Except.map, String.empty_append]

theorem answers_closed (hgather : shell.pending = [] → beginsWithDot typed = false)
    (hclosed : hasSemicolon typed = true) : shell.answers (typed :: lines) =
      shell.session.showScript (joinLines (shell.pending ++ [trimmedLine typed])) >>=
        fun (text, session) => (answers ⟨session, []⟩ lines).map
          fun (later, last) => (text ++ later, last) := by
  have hentered := enter_closed hgather hclosed
  cases hshown : shell.session.showScript (joinLines (shell.pending ++ [trimmedLine typed])) with
  | error fault =>
      rw [hshown] at hentered
      have hfails : shell.proceed (typed :: lines) = .error fault := by
        rw [proceed, hentered]
        rfl
      rw [answers, hfails]
      rfl
  | ok shown =>
      obtain ⟨text, session⟩ := shown
      rw [hshown] at hentered
      have hstep : shell.enter typed = .ok ⟨text, some ⟨session, []⟩⟩ := hentered
      rw [answers_cons hstep, bind_ok]

/-- A shell in a session that goes on after failures shows what the session shows for the script of the
lines that it has and those that are typed, if every line with a semicolon is closed. -/
theorem answers_eq (shell : Shell) (goesOn : shell.session.stopOnError = false)
    (hopen : ∀ line ∈ shell.pending, hasSemicolon line = false)
    (hlines : ∀ typed ∈ lines, beginsWithDot typed = false)
    (closes : List.Forall₂ Closes (lines.map trimmedLine) texts) :
    shell.answers lines = (shell.session.showScript (scriptOf (shell.pending ++ texts))).map
      fun (text, session) => (text, some session) := by
  induction lines generalizing shell texts with
  | nil =>
      cases closes
      have hnone : statementsOf (scriptOf (shell.pending ++ [])) = [] := by
        rw [List.append_nil, scriptOf, terminated_eq_empty (hasSemicolon_joinLines hopen)]
        rfl
      rw [Session.showScript, hnone]
      rfl
  | cons typed rest ih =>
      obtain ⟨htyped, hrest⟩ := List.forall_mem_cons.mp hlines
      rw [List.map_cons] at closes
      cases closes with
      | @cons _ text _ texts closesLine closesRest =>
          cases closesLine with
          | keep hline =>
              have hpending : ∀ line ∈ shell.pending ++ [trimmedLine typed],
                  hasSemicolon line = false := by
                rintro line hmem
                rcases List.mem_append.mp hmem with hmem | hmem
                · exact hopen line hmem
                · rwa [List.mem_singleton.mp hmem]
              rw [answers_open (fun _ => htyped) ((hasSemicolon_trimmedLine typed).symm.trans hline),
                ih { shell with pending := shell.pending ++ [trimmedLine typed] } goesOn hpending
                  hrest closesRest, List.append_assoc, List.singleton_append]
          | close hline hsame =>
              rw [answers_closed (fun _ => htyped) ((hasSemicolon_trimmedLine typed).symm.trans hline),
                Session.showScript_closed goesOn hsame]
              cases hshown : shell.session.showScript
                  (joinLines (shell.pending ++ [trimmedLine typed])) with
              | error fault => rfl
              | ok shown =>
                  obtain ⟨text, session⟩ := shown
                  have hkeeps := (Session.stopOnError_of_showScript hshown).trans goesOn
                  have hlater := ih ⟨session, []⟩ hkeeps (by simp) hrest closesRest
                  simp only [bind_ok, hlater, List.nil_append]
                  cases session.showScript (scriptOf texts) <;> rfl

/-- A shell into which no line is typed that begins with a dot shows, apart from its prompts, what a
session shows for the lines as a script up to its last semicolon, if every line with a semicolon gets
another one at its end. If such lines end with a semicolon as they are, this is the script that has been
typed, and its terminated statements are all that is run. -/
theorem shell_runs_closed_lines (database : Option String)
    (noCommands : ∀ typed ∈ lines, beginsWithDot typed = false) :
    let session := (start database).session
    (start database).run lines = ((start database).proceed lines).map transcribe ∧
      (start database).answers lines =
        (session.showScript (scriptOf (lines.map (closeLine ∘ trimmedLine)))).map
          (fun (text, last) => (text, some last)) ∧
      ((∀ typed ∈ lines, hasSemicolon typed = true → endsWithSemicolon (trimmedLine typed) = true) →
        (start database).answers lines = (session.showScript (scriptOf (lines.map trimmedLine))).map
          (fun (text, last) => (text, some last))) := by
  intro session
  have hstart : ∀ line ∈ (start database).pending, hasSemicolon line = false := by simp [start]
  refine ⟨run_eq_proceed _ lines, ?_, fun hends => ?_⟩
  · refine answers_eq (start database) rfl hstart noCommands ?_
    rw [List.forall₂_map_left_iff, List.forall₂_map_right_iff, List.forall₂_same]
    intro typed _
    rw [Function.comp_apply]
    exact closes_closeLine (trimmedLine typed)
  · refine answers_eq (start database) rfl hstart noCommands ?_
    rw [List.forall₂_map_left_iff, List.forall₂_map_right_iff, List.forall₂_same]
    intro typed hmem
    refine closes_self fun hsemicolon => hends typed hmem ?_
    rwa [← hasSemicolon_trimmedLine]

theorem shell_runs_spread_lines :
    let lines := ["CREATE DATABASE shop; USE shop; ", "", "SHOW", "TABLES;", "DROP DATABASE shop"]
    (∀ typed ∈ lines, beginsWithDot typed = false) ∧
      (start none).answers lines =
        ((start none).session.showScript (scriptOf (lines.map trimmedLine))).map
          (fun (text, last) => (text, some last)) := by
  intro lines
  have hlines : ∀ typed ∈ lines, beginsWithDot typed = false := by decide +kernel
  have hends : ∀ typed ∈ lines, hasSemicolon typed = true →
      endsWithSemicolon (trimmedLine typed) = true := by
    decide +kernel
  obtain ⟨-, -, hplain⟩ := shell_runs_closed_lines none hlines
  exact ⟨hlines, hplain hends⟩

/-- A statement begun behind a semicolon is run at the end of its line, without one of its own. -/
theorem unfinished_statement_runs :
    let lines := ["SHOW DATABASES; DROP DATABASE demo_db"]
    let databases (session : Session) := session.store.server.map Prod.fst
    ((start none).answers lines).toOption.bind (fun answered => answered.2.map databases) =
        some ["company_db", "system_db"] ∧
      ((start none).session.showScript (scriptOf (lines.map trimmedLine))).toOption.map
        (fun shown => databases shown.2) = some ["demo_db", "company_db", "system_db"] := by
  decide +kernel

end Shell

end MockSql
