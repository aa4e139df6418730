/-
# Options on a command line

A word of a command line is an operand, an option, or the divider `--`. An option is written with
two hyphens, may be shortened as long as it stays unambiguous, and takes its value from the same
word after an equals sign or from the next word; an option of one letter also takes what follows
the letter. A number with a minus sign is no option, and neither is a word with a space in it that
resembles none.
-/

import MockSql.Text.Digit

namespace MockSql.CommandLine

open MockSql.Text

/-- An option: its spellings, and whether it takes a value. -/
structure Flag where
  spellings : List String
  takesValue : Bool

/-- An option as it was used. -/
structure Use where
  flag : Flag
  value : Option String

/-- What a word is: an operand, the divider, a use of an option, possibly with a value in the same
word, or an option that does not exist or is ambiguous. -/
inductive Role where
  | operand
  | divider
  | use (flag : Flag) (value : Option String)
  | unknown

/-- Whether a word is a number with a minus sign. -/
def isNegativeNumber (word : List Char) : Bool :=
  match word with
  | '-' :: rest =>
    let fraction := rest.dropWhile isDigit
    (!rest.isEmpty && fraction.isEmpty) ||
      (match fraction with
        | '.' :: digits => !digits.isEmpty && digits.all isDigit
        | _ => false)
  | _ => false

/-- The part of a word before its first equals sign, and what follows the sign. -/
def splitValue (word : List Char) : List Char × Option (List Char) :=
  match word.dropWhile (· != '=') with
  | [] => (word, none)
  | _ :: value => (word.takeWhile (· != '='), some value)

/-- The options, once for every spelling, that a spelling may be short for. -/
def candidates (flags : List Flag) (spelling : List Char) : List Flag :=
  flags.flatMap fun flag =>
    (flag.spellings.filter fun full => spelling.isPrefixOf full.toList).map fun _ => flag

/-- The option of an exact spelling. -/
def exactFlag? (flags : List Flag) (spelling : List Char) : Option Flag :=
  flags.find? fun flag => flag.spellings.contains (String.ofList spelling)

/-- The uses of an option that a word without an exact spelling may be: a shortened long option, or
a letter with a value. -/
def possibleUses (flags : List Flag) (word : List Char) : List (Flag × Option String) :=
  match word with
  | '-' :: '-' :: _ =>
    let (spelling, value) := splitValue word
    (candidates flags spelling).map fun flag => (flag, value.map String.ofList)
  | _ =>
    let letter := (exactFlag? flags (word.take 2)).map fun flag =>
      (flag, some (String.ofList (word.drop 2)))
    letter.toList ++ (candidates flags word).map fun flag => (flag, none)

/-- The role of a word that has no exact spelling of an option. -/
def inexactRole (flags : List Flag) (word : List Char) : Role :=
  match possibleUses flags word with
  | [(flag, value)] => .use flag value
  | [] => if isNegativeNumber word || word.contains ' ' then .operand else .unknown
  | _ => .unknown

/-- The role of a word that begins with a hyphen. -/
def hyphenRole (flags : List Flag) (word : List Char) : Role :=
  match exactFlag? flags word with
  | some flag => .use flag none
  | none =>
    let (spelling, value) := splitValue word
    match value, exactFlag? flags spelling with
    | some value, some flag => .use flag (some (String.ofList value))
    | _, _ => inexactRole flags word

/-- The role of a word. A hyphen alone is an operand. -/
def roleOf (flags : List Flag) (text : String) : Role :=
  match text.toList with
  | ['-', '-'] => .divider
  | '-' :: c :: rest => hyphenRole flags ('-' :: c :: rest)
  | _ => .operand

/-- The uses of options that come before the first operand or divider, and the words from there on.
None if an option does not exist, has a value that it does not take, or lacks a value; the value in
the next word looks like an operand. The option whose value is awaited comes first. -/
def takeUses (flags : List Flag) (awaiting : Option Flag) :
    List String → Option (List Use × List String)
  | [] => if awaiting.isSome then none else some ([], [])
  | word :: rest =>
    let andThen (use : Use) (later : Option (List Use × List String)) :=
      later.map fun (uses, words) => (use :: uses, words)
    match awaiting, roleOf flags word with
    | some flag, .operand => andThen ⟨flag, some word⟩ (takeUses flags none rest)
    | some _, _ => none
    | none, .operand | none, .divider => some ([], word :: rest)
    | none, .unknown => none
    | none, .use flag value =>
      match flag.takesValue, value with
      | true, none => takeUses flags (some flag) rest
      | false, some _ => none
      | _, value => andThen ⟨flag, value⟩ (takeUses flags none rest)

/-- Whether an option was used. -/
def isUsed (uses : List Use) (spelling : String) : Bool :=
  uses.any fun use => use.flag.spellings.contains spelling

/-- The values of an option in the order of its uses. -/
def values (uses : List Use) (spelling : String) : List String :=
  (uses.filter fun use => use.flag.spellings.contains spelling).filterMap (·.value)

/-- The value of the last use of an option. -/
def lastValue? (uses : List Use) (spelling : String) : Option String :=
  (values uses spelling).getLast?

end MockSql.CommandLine
