/-
# Commands

The program takes options of its own, a command, and the command's options and operand. A command
line that cannot be read ends the program with exit code 2.
-/

import MockSql.CommandLine.Flag
import MockSql.Settings
import MockSql.Text.Case.Upper

namespace MockSql.CommandLine

open MockSql.Text

/-- What the program is asked to do. -/
inductive Command where
  | help
  | serve (host : String) (port : Int) (debug : Bool)
  | shell (database : Option String)
  | run (file : String) (database : Option String) (stopOnError : Bool)
deriving DecidableEq, Repr

/-- Why a command line does nothing. -/
inductive Misuse where
  /-- The words cannot be read. -/
  | unreadable
  /-- The level of the log is none. -/
  | unknownLevel (level : String)
deriving DecidableEq, Repr

/-- A character that a message shows by its code: a control character or the no-break space. -/
def isHidden (c : Char) : Bool :=
  c.toNat < 32 || (127 ≤ c.toNat && c.toNat ≤ 160)

/-- A character of a text that a message quotes. -/
def quotedChar (quote c : Char) : List Char :=
  if c == quote || c == '\\' then ['\\', c]
  else if c == '\n' then ['\\', 'n']
  else if c == '\r' then ['\\', 'r']
  else if c == '\t' then ['\\', 't']
  else if isHidden c then
    let digits := Nat.toDigits 16 c.toNat
    '\\' :: 'x' :: List.replicate (2 - digits.length) '0' ++ digits
  else [c]

/-- A text between quotes: single ones, unless it holds single and no double ones. -/
def quoted (text : String) : String :=
  let chars := text.toList
  let quote := if chars.contains '\x27' && !chars.contains '\x22' then '\x22' else '\x27'
  String.ofList (quote :: chars.flatMap (quotedChar quote) ++ [quote])

/-- What is said about a misuse. -/
def Misuse.message : Misuse → String
  | .unreadable => "The command line cannot be read."
  | .unknownLevel level => "Unknown level: " ++ quoted level

/-- The option that asks for help. -/
def helpFlag : Flag := ⟨["-h", "--help"], false⟩

/-- The options before the command. -/
def mainFlags : List Flag := [helpFlag, ⟨["--log-level"], true⟩]

/-- The options of `serve`. -/
def serveFlags : List Flag :=
  [helpFlag, ⟨["--host"], true⟩, ⟨["--port"], true⟩, ⟨["--debug"], false⟩]

/-- The options of `shell`. -/
def shellFlags : List Flag := [helpFlag, ⟨["--database", "-d"], true⟩]

/-- The options of `run`. -/
def runFlags : List Flag :=
  [helpFlag, ⟨["--database", "-d"], true⟩, ⟨["--stop-on-error"], false⟩]

/-- An integer as the value of an option: digits of any script with low lines between them, after a
sign, and with white space around. -/
def readInteger? (text : String) : Option Int :=
  let (negative, unsigned) := Number.takeSign (trim text.toList)
  match Double.joinDigits false (unsigned.map Double.plainDigit) with
  | some digits =>
    if digits.isEmpty || !digits.all Char.isDigit then none
    else (Literal.readInt negative digits).toOption
  | none => none

/-- The uses of options in words without an operand. -/
def readUses? (flags : List Flag) (words : List String) : Option (List Use) := do
  let (uses, rest) ← takeUses flags none words
  if rest.isEmpty then some uses else none

/-- The one operand among some words, and the uses of options around it. A divider may stand before
it, when nothing follows it, or after it at the end. -/
def readOperand? (flags : List Flag) (words : List String) : Option (String × List Use) := do
  let (before, rest) ← takeUses flags none words
  match rest with
  | [] => none
  | ["--", operand] => some (operand, before)
  | "--" :: _ => none
  | [operand, "--"] => some (operand, before)
  | operand :: more => do
    let after ← readUses? flags more
    some (operand, before ++ after)

/-- The command `serve` with its options. -/
def readServe (settings : Settings) (words : List String) : Option Command := do
  let uses ← readUses? serveFlags words
  let ports ← (values uses "--port").mapM readInteger?
  some (if isUsed uses "--help" then .help
    else .serve ((lastValue? uses "--host").getD settings.host)
      (ports.getLast?.getD settings.port) (settings.debug || isUsed uses "--debug"))

/-- The command `shell` with its options. -/
def readShell (words : List String) : Option Command := do
  let uses ← readUses? shellFlags words
  some (if isUsed uses "--help" then .help else .shell (lastValue? uses "--database"))

/-- The command `run` with its options. -/
def readRun (words : List String) : Option Command := do
  let (file, uses) ← readOperand? runFlags words
  some (if isUsed uses "--help" then .help
    else .run file (lastValue? uses "--database") (isUsed uses "--stop-on-error"))

/-- The command of a name with its words. Without a name it is help. -/
def readCommand (settings : Settings) : List String → Option Command
  | [] => some .help
  | "serve" :: words => readServe settings words
  | "shell" :: words => readShell words
  | "run" :: words => readRun words
  | _ => none

/-- The names of the levels of the log. -/
def levels : List String :=
  ["CRITICAL", "FATAL", "ERROR", "WARN", "WARNING", "INFO", "DEBUG", "NOTSET"]

/-- What a command line asks for. The level of the log is looked at when all else has been read, and
not at all if an option asks for help. -/
def read (settings : Settings) (words : List String) : Except Misuse Command :=
  match takeUses mainFlags none words with
  | none => .error .unreadable
  | some (uses, rest) =>
    if isUsed uses "--help" then .ok .help
    else
      match readCommand settings rest with
      | none => .error .unreadable
      | some command =>
        let level := (lastValue? uses "--log-level").getD settings.logLevel
        let capitals := String.ofList (upper level.toList)
        if (command = .help && !rest.isEmpty) || levels.contains capitals then .ok command
        else .error (.unknownLevel capitals)

end MockSql.CommandLine
