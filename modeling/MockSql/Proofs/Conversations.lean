/-
# Conversations with a shell

A conversation is what a shell asks and shows for some lines, one after the other. The lines of the
statement in progress are those typed since the last line with a semicolon, from the first of them on that
does not begin with a dot. So a line that begins with a dot is a meta-command exactly if all of these
lines begin with one. A blank line does not: from then on a meta-command is a line of a statement.
-/

import Mathlib.Data.List.DropRight
import MockSql.Proofs.Outcome
import MockSql.Proofs.Stops
import MockSql.Shell

namespace MockSql

open MockSql.Text

-- What a statement does is of no concern here.
attribute [local irreducible] Server.execute

/-- A line without white space at its end. -/
def trimmedLine (typed : String) : String :=
  String.ofList (trimEnd typed.toList)

/-- Whether a line begins with a dot. -/
def beginsWithDot (typed : String) : Bool :=
  typed.toList.head? == some '.'

/-- Whether a line has a semicolon. -/
def hasSemicolon (typed : String) : Bool :=
  typed.toList.contains ';'

/-- Lines with line breaks between them. -/
def joinLines (lines : List String) : String :=
  "\n".intercalate lines

theorem beginsWithDot_trimmedLine (typed : String) :
    beginsWithDot (trimmedLine typed) = beginsWithDot typed := by
  rw [beginsWithDot, beginsWithDot, trimmedLine, String.toList_ofList, Bool.eq_iff_iff, beq_iff_eq,
    beq_iff_eq]
  constructor
  · exact fun hdot => mem_head?_of_dropWhileEnd hdot
  · intro hdot
    obtain ⟨rest, hrest⟩ := List.head?_eq_some_iff.mp hdot
    have hstop := dropWhileEnd_append_stop (show isBlank '.' = false by decide) [] rest
    rw [hrest, trimEnd, ← List.nil_append ('.' :: rest), hstop]
    rfl

theorem hasSemicolon_trimmedLine (typed : String) :
    hasSemicolon (trimmedLine typed) = hasSemicolon typed := by
  rw [hasSemicolon, hasSemicolon, trimmedLine, String.toList_ofList, Bool.eq_iff_iff,
    List.contains_iff_mem, List.contains_iff_mem]
  have htext : typed.toList.rdropWhile isBlank ++ typed.toList.rtakeWhile isBlank = typed.toList :=
    List.rdropWhile_append_rtakeWhile
  constructor
  · exact fun hmem => (List.rdropWhile_prefix isBlank typed.toList).subset hmem
  · intro hmem
    rw [← htext] at hmem
    refine (List.mem_append.mp hmem).resolve_right fun hafter => ?_
    exact absurd (List.mem_rtakeWhile_imp hafter) (by decide)

namespace Session

/-- What is shown for some statements, and the session after them. -/
def showAll (session : Session) (queries : List String) : Except Fault (String × Session) :=
  (renderReports (session.executeAll queries).1).map (·, (session.executeAll queries).2)

/-- What is shown for a script, and the session after it. -/
def showScript (session : Session) (script : String) : Except Fault (String × Session) :=
  session.showAll (statementsOf script)

/-- Statements change neither the seed of a session's store nor whether it stops at failures. -/
theorem executeAll_keeps (session : Session) (queries : List String) :
    (session.executeAll queries).2.store.seed = session.store.seed ∧
      (session.executeAll queries).2.stopOnError = session.stopOnError := by
  induction queries generalizing session with
  | nil => exact ⟨rfl, rfl⟩
  | cons query rest ih =>
      cases hstop : (!(session.execute query).1.succeeded && session.stopOnError) with
      | true =>
          have hrun : session.executeAll (query :: rest) =
              ([(session.execute query).1], (session.execute query).2) := if_pos hstop
          rw [hrun]
          exact ⟨rfl, rfl⟩
      | false =>
          have hrun : session.executeAll (query :: rest) =
              ((session.execute query).1 :: ((session.execute query).2.executeAll rest).1,
                ((session.execute query).2.executeAll rest).2) := if_neg (Bool.eq_false_iff.mp hstop)
          rw [hrun]
          exact ih (session.execute query).2

end Session

namespace Shell

variable {shell next : Shell} {typed : String} {lines : List String} {step : Step}

/-- A line that begins with a dot is a meta-command if no statement is in progress. -/
theorem enter_command (hpending : shell.pending = []) (hdot : beginsWithDot typed = true) :
    shell.enter typed = .ok (shell.command (trimmedLine typed)) := by
  rw [← beginsWithDot_trimmedLine] at hdot
  have hcommand : (shell.pending.isEmpty && (trimmedLine typed).toList.head? == some '.') = true := by
    rw [hpending]
    exact hdot
  exact if_pos hcommand

/-- Any other line belongs to the statement in progress. -/
theorem enter_gather (hgather : shell.pending = [] → beginsWithDot typed = false) :
    shell.enter typed = shell.gather (trimmedLine typed) := by
  have hcommand : (shell.pending.isEmpty && (trimmedLine typed).toList.head? == some '.') = false := by
    cases hpending : shell.pending with
    | nil =>
        have hdot := hgather hpending
        rw [← beginsWithDot_trimmedLine] at hdot
        exact hdot
    | cons line rest => rfl
  exact if_neg (Bool.eq_false_iff.mp hcommand)

/-- Without a semicolon it is added. -/
theorem enter_open (hgather : shell.pending = [] → beginsWithDot typed = false)
    (hopen : hasSemicolon typed = false) : shell.enter typed =
      .ok ⟨"", some { shell with pending := shell.pending ++ [trimmedLine typed] }⟩ := by
  rw [← hasSemicolon_trimmedLine] at hopen
  rw [enter_gather hgather]
  exact if_neg (Bool.eq_false_iff.mp hopen)

/-- With one it completes a script, which is run. -/
theorem enter_closed (hgather : shell.pending = [] → beginsWithDot typed = false)
    (hclosed : hasSemicolon typed = true) : shell.enter typed =
      (shell.session.showScript (joinLines (shell.pending ++ [trimmedLine typed]))).map
        fun (text, session) => ⟨text, some ⟨session, []⟩⟩ := by
  rw [← hasSemicolon_trimmedLine] at hclosed
  have hcontains : (trimmedLine typed).toList.contains ';' = true := hclosed
  rw [enter_gather hgather, gather, Session.showScript, Session.showAll, joinLines]
  simp only [hcontains, if_true, Session.executeScript]
  generalize shell.session.executeAll _ = ran
  cases renderReports ran.1 <;> rfl

/-- A meta-command does not begin a statement, and keeps the seed. -/
theorem command_keeps {line : String} (hnext : (shell.command line).next = some next) :
    next.pending = shell.pending ∧ next.session.store.seed = shell.session.store.seed := by
  rw [command] at hnext
  split_ifs at hnext
  all_goals cases hnext
  all_goals exact ⟨rfl, rfl⟩

/-- What a line makes of the statement in progress. The seed stays. -/
theorem enter_next (h : shell.enter typed = .ok step) (hnext : step.next = some next) :
    next.session.store.seed = shell.session.store.seed ∧ next.pending =
      if hasSemicolon typed = true ∨ shell.pending = [] ∧ beginsWithDot typed = true then []
      else shell.pending ++ [trimmedLine typed] := by
  by_cases hcommand : shell.pending = [] ∧ beginsWithDot typed = true
  · rw [enter_command hcommand.1 hcommand.2] at h
    cases h
    obtain ⟨hpending, hseed⟩ := command_keeps hnext
    exact ⟨hseed, by rw [if_pos (.inr hcommand), hpending, hcommand.1]⟩
  · have hgather : shell.pending = [] → beginsWithDot typed = false :=
      fun hpending => Bool.eq_false_iff.mpr fun hdot => hcommand ⟨hpending, hdot⟩
    cases hsemicolon : hasSemicolon typed with
    | true =>
        rw [enter_closed hgather hsemicolon, map_eq_ok_iff] at h
        obtain ⟨⟨text, session⟩, hshown, rfl⟩ := h
        cases hnext
        obtain ⟨shown, -, hsession⟩ := map_eq_ok_iff.mp hshown
        cases hsession
        exact ⟨(Session.executeAll_keeps _ _).1, by simp⟩
    | false =>
        rw [enter_open hgather hsemicolon] at h
        cases h
        cases hnext
        refine ⟨rfl, ?_⟩
        rw [if_neg]
        rintro (hsemicolon | hdot)
        · cases hsemicolon
        · exact hcommand hdot

/-- What a shell asks and shows for some lines, one by one, and the shell that goes on unless it has
ended. -/
def proceed (shell : Shell) : List String → Except Fault (List (String × String) × Option Shell)
  | [] => .ok ([], some shell)
  | typed :: rest => do
    let step ← shell.enter typed
    match step.next with
    | none => .ok ([(shell.prompt, step.output)], none)
    | some next => do
      let (shown, last) ← next.proceed rest
      .ok ((shell.prompt, step.output) :: shown, last)

/-- A conversation as a text: every prompt, and behind it what is shown. If the shell goes on, its prompt
and a line break end the text. -/
def transcribe (conversation : List (String × String) × Option Shell) : String :=
  String.join (conversation.1.map fun (prompt, output) => prompt ++ output) ++
    (conversation.2.map fun shell => shell.prompt ++ "\n").getD ""

/-- All the output of a shell is its conversation as a text. -/
theorem run_eq_proceed (shell : Shell) (lines : List String) :
    shell.run lines = (shell.proceed lines).map transcribe := by
  induction lines generalizing shell with
  | nil => simp [run, proceed, transcribe, Except.map]
  | cons typed rest ih =>
      rw [run, proceed]
      cases shell.enter typed with
      | error fault => rfl
      | ok step =>
          rw [bind_ok, bind_ok]
          cases hnext : step.next with
          | none => simp [transcribe, Except.map]
          | some next =>
              simp only [ih next]
              cases next.proceed rest with
              | error fault => rfl
              | ok conversation =>
                  simp only [Except.map, bind_ok, transcribe, List.map_cons, String.join_cons,
                    String.append_assoc]

/-- A conversation goes on behind its first lines. -/
theorem proceed_append (shell : Shell) (lines more : List String) :
    shell.proceed (lines ++ more) = shell.proceed lines >>= fun (shown, last) =>
      match last with
      | none => .ok (shown, none)
      | some next => (next.proceed more).map fun (later, last) => (shown ++ later, last) := by
  induction lines generalizing shell with
  | nil =>
      rw [List.nil_append, proceed, bind_ok]
      show shell.proceed more = (shell.proceed more).map fun (later, last) => ([] ++ later, last)
      cases shell.proceed more <;> rfl
  | cons typed rest ih =>
      rw [List.cons_append, proceed, proceed]
      cases shell.enter typed with
      | error fault => rfl
      | ok step =>
          rw [bind_ok, bind_ok]
          cases hnext : step.next with
          | none => rfl
          | some next =>
              simp only [ih next]
              cases next.proceed rest with
              | error fault => rfl
              | ok conversation =>
                  obtain ⟨shown, last⟩ := conversation
                  cases last with
                  | none => rfl
                  | some between =>
                      simp only [bind_ok]
                      cases between.proceed more <;> rfl

/-- A shell that has taken one more line took the others before and then this one. -/
theorem proceed_concat {shown : List (String × String)}
    (h : shell.proceed (lines ++ [typed]) = .ok (shown, some next)) :
    ∃ earlier between step, shell.proceed lines = .ok (earlier, some between) ∧
      between.enter typed = .ok step ∧ step.next = some next := by
  rw [proceed_append, bind_eq_ok_iff] at h
  obtain ⟨⟨earlier, last⟩, hearlier, h⟩ := h
  cases last with
  | none => cases h
  | some between =>
      obtain ⟨⟨later, last⟩, hlater, heq⟩ := map_eq_ok_iff.mp h
      cases heq
      rw [proceed, bind_eq_ok_iff] at hlater
      obtain ⟨step, hstep, hlater⟩ := hlater
      refine ⟨earlier, between, step, hearlier, hstep, ?_⟩
      cases hnext : step.next with
      | none =>
          rw [hnext] at hlater
          cases hlater
      | some last =>
          rw [hnext] at hlater
          cases hlater
          rfl

/-- The lines since the last one with a semicolon. -/
def sinceSemicolon (lines : List String) : List String :=
  lines.rtakeWhile (!hasSemicolon ·)

/-- The lines of the statement in progress after some typed lines. -/
def statementLines (lines : List String) : List String :=
  ((sinceSemicolon lines).dropWhile beginsWithDot).map trimmedLine

theorem statementLines_concat (lines : List String) (typed : String) :
    statementLines (lines ++ [typed]) =
      if hasSemicolon typed = true ∨ statementLines lines = [] ∧ beginsWithDot typed = true then []
      else statementLines lines ++ [trimmedLine typed] := by
  cases hsemicolon : hasSemicolon typed with
  | true => simp [statementLines, sinceSemicolon, hsemicolon]
  | false =>
      have hsince : sinceSemicolon (lines ++ [typed]) = sinceSemicolon lines ++ [typed] := by
        simp [sinceSemicolon, hsemicolon]
      rw [statementLines, hsince, List.dropWhile_append, statementLines]
      cases hlines : (sinceSemicolon lines).dropWhile beginsWithDot with
      | nil => cases hdot : beginsWithDot typed <;> simp [hdot]
      | cons line rest => simp

/-- After a run from the beginning, the statement in progress has the lines since the last semicolon from
the first that does not begin with a dot, and the seed is what it was. -/
theorem pending_of_proceed {shown : List (String × String)} (hfirst : shell.pending = [])
    (h : shell.proceed lines = .ok (shown, some next)) :
    next.session.store.seed = shell.session.store.seed ∧ next.pending = statementLines lines := by
  induction lines using List.reverseRecOn generalizing shown next with
  | nil =>
      cases h
      exact ⟨rfl, hfirst⟩
  | append_singleton lines typed ih =>
      obtain ⟨earlier, between, step, hearlier, hstep, hnext⟩ := proceed_concat h
      obtain ⟨hseed, hpending⟩ := ih hearlier
      obtain ⟨hseed', hpending'⟩ := enter_next hstep hnext
      refine ⟨hseed'.trans hseed, ?_⟩
      rw [hpending', hpending, statementLines_concat]

/-- A statement is in progress unless all lines since the last semicolon begin with a dot. -/
theorem statementLines_eq_nil_iff (lines : List String) : statementLines lines = [] ↔
    ∀ typed ∈ sinceSemicolon lines, beginsWithDot typed = true := by
  rw [statementLines, List.map_eq_nil_iff, List.dropWhile_eq_nil_iff]

/-- In every run of a shell, meta-commands work exactly as long as all lines since the last one with a
semicolon begin with a dot: two end the shell, one restores the seed and leaves the session as it is
otherwise, one lists the databases, and none is added to a statement. Once another line has been typed,
blank or not, a line that begins with a dot is added to the statement. -/
theorem commands_work_between_statements {database : Option String} {shown : List (String × String)}
    (h : (start database).proceed lines = .ok (shown, some next)) :
    ((∀ typed ∈ sinceSemicolon lines, beginsWithDot typed = true) →
      next.pending = [] ∧
      (∀ typed, trimmedLine typed = ".quit" ∨ trimmedLine typed = ".exit" →
        next.enter typed = .ok ⟨"", none⟩) ∧
      (∀ typed, trimmedLine typed = ".reset" → next.enter typed = .ok ⟨"Server state reset.\n",
        some { next with session := { next.session with store := Seed.store } }⟩) ∧
      (∀ typed, trimmedLine typed = ".databases" →
        next.enter typed = .ok ⟨databaseList next.session.store.server, some next⟩)) ∧
    ((∃ typed ∈ sinceSemicolon lines, beginsWithDot typed = false) →
      next.pending = statementLines lines ∧
      ∀ typed, beginsWithDot typed = true → hasSemicolon typed = false → next.enter typed =
        .ok ⟨"", some { next with pending := next.pending ++ [trimmedLine typed] }⟩) := by
  obtain ⟨hseed, hpending⟩ := pending_of_proceed rfl h
  refine ⟨fun hdots => ?_, fun ⟨line, hline, hdot⟩ => ⟨hpending, ?_⟩⟩
  · rw [(statementLines_eq_nil_iff lines).mpr hdots] at hpending
    have hcommand : ∀ typed line, trimmedLine typed = line → beginsWithDot line = true →
        next.enter typed = .ok (next.command line) := by
      rintro typed line rfl hdot
      rw [beginsWithDot_trimmedLine] at hdot
      exact enter_command hpending hdot
    have hreset : next.session.reset = { next.session with store := Seed.store } := by
      have hstore : next.session.store.reset = Seed.store := by
        rw [Store.reset, hseed]
        rfl
      rw [Session.reset, hstore]
    refine ⟨hpending, ?_, ?_, ?_⟩
    · rintro typed (hquit | hexit)
      · exact hcommand typed _ hquit (by decide)
      · exact hcommand typed _ hexit (by decide)
    · intro typed hline
      rw [hcommand typed _ hline (by decide), ← hreset]
      rfl
    · exact fun typed hline => hcommand typed _ hline (by decide)
  · intro typed _ hsemicolon
    refine enter_open (fun hnone => ?_) hsemicolon
    have hall := (statementLines_eq_nil_iff lines).mp (hpending ▸ hnone) line hline
    rw [hdot] at hall
    cases hall

theorem commands_work_after_statement :
    let lines := [".help", "", "DROP DATABASE demo_db; USE", ".databases "]
    ∃ shown next, (start none).proceed lines = .ok (shown, some next) ∧
      next.enter ".reset " = .ok ⟨"Server state reset.\n",
        some { next with session := { next.session with store := Seed.store } }⟩ := by
  intro lines
  have hgoes : (((start none).proceed lines).toOption.bind Prod.snd).isSome = true := by
    decide +kernel
  cases hrun : (start none).proceed lines with
  | error fault =>
      rw [hrun] at hgoes
      cases hgoes
  | ok conversation =>
      obtain ⟨shown, _ | next⟩ := conversation
      · rw [hrun] at hgoes
        cases hgoes
      · obtain ⟨-, -, hreset, -⟩ := (commands_work_between_statements hrun).1 (by decide +kernel)
        exact ⟨shown, next, rfl, hreset ".reset " (by decide +kernel)⟩

/-- Behind a blank line, meta-commands are lines of a statement. -/
theorem blank_line_hides_commands : ∃ shown next, (start none).proceed [" "] = .ok (shown, some next) ∧
    ∀ line ∈ [".quit", ".exit", ".reset", ".databases"],
      next.enter line = .ok ⟨"", some { next with pending := ["", line] }⟩ := by
  refine ⟨[("(none)> ", "")], { start none with pending := [""] }, ?_, ?_⟩
  · have hblank : (start none).enter " " = .ok ⟨"", some { start none with pending := [""] }⟩ :=
      enter_open (fun _ => by decide +kernel) (by decide +kernel)
    rw [proceed, hblank]
    rfl
  · intro line hline
    have htrimmed : ∀ line ∈ [".quit", ".exit", ".reset", ".databases"],
        hasSemicolon line = false ∧ trimmedLine line = line := by
      decide +kernel
    obtain ⟨hopen, hsame⟩ := htrimmed line hline
    have hentered : Shell.enter { start none with pending := [""] } line =
        .ok ⟨"", some { start none with pending := ["", trimmedLine line] }⟩ :=
      enter_open (fun hnone => nomatch hnone) hopen
    rwa [hsame] at hentered

end Shell

end MockSql
