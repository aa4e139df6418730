/-
# Settings

Settings come from environment variables whose names begin with `DEMODB_`, in any case; whatever is
not set has a default. A value that cannot be read or is out of bounds is rejected, and the fields
of all rejected values are reported together.
-/

import MockSql.Entries
import MockSql.Literal
import MockSql.Text.Case.Lower

namespace MockSql

open MockSql.Text MockSql.Number

/-- The settings of the program; times are in seconds. -/
structure Settings where
  apiBaseUrl : String := "http://localhost:3001"
  apiTimeout : Double := .ofDecimal false 5 0
  healthTimeout : Double := .ofDecimal false 15 (-1)
  simulatedLatency : Double := .ofDecimal false 3 (-1)
  host : String := "0.0.0.0"
  port : Nat := 3001
  debug : Bool := false
  logLevel : String := "INFO"
deriving DecidableEq, Repr

namespace Settings

/-- The words for true. -/
def trueWords : List String := ["1", "on", "t", "true", "y", "yes"]

/-- The words for false. -/
def falseWords : List String := ["0", "off", "f", "false", "n", "no"]

/-- The truth value that a word stands for, in any case. -/
def readBool? (text : String) : Option Bool :=
  let word := String.ofList (text.toList.map Char.toLower)
  if trueWords.contains word then some true
  else if falseWords.contains word then some false
  else none

/-- A text without low lines, if each stands between other characters. -/
def withoutLowLines? (text : List Char) : Option (List Char) :=
  if (text.splitOn '_').any List.isEmpty then none else some (text.filter (· != '_'))

/-- A whole part whose fraction, if it has one, is zero. -/
def wholePart? (text : List Char) : Option (List Char) :=
  let fraction := (text.dropWhile (· != '.')).drop 1
  if fraction.all (· == '0') then some (text.takeWhile (· != '.')) else none

/-- An integer: a sign, digits with low lines between them, and perhaps a fraction of zeros. -/
def readInt? (text : String) : Option Int := do
  let (negative, unsigned) := takeSign (trim text.toList)
  let whole ← wholePart? unsigned
  let digits ← withoutLowLines? whole
  if digits.isEmpty || !digits.all Char.isDigit then none
  else (Literal.readInt negative digits).toOption

/-- A double in ASCII; low lines may stand between other characters. -/
def readDouble? (text : String) : Option Double := do
  let plain ← withoutLowLines? (trim text.toList)
  let (negative, unsigned) := takeSign plain
  (Double.readUnsigned? negative unsigned).or (Double.readWord? negative unsigned)

/-- Whether a double is above zero, or at least not below it; NaN is taken for either. -/
def isAboveZero (orZero : Bool) (x : Double) : Bool :=
  match x with
  | .nan => true
  | .infinite negative => !negative
  | _ => x.units?.any fun units => if orZero then 0 ≤ units else 0 < units

/-- A number of seconds above zero, or zero where that is allowed. -/
def readSeconds? (orZero : Bool) (text : String) : Option Double :=
  (readDouble? text).filter (isAboveZero orZero)

/-- A port number. -/
def readPort? (text : String) : Option Nat :=
  (readInt? text).bind fun n => if 1 ≤ n ∧ n ≤ 65535 then some n.toNat else none

/-- What names of variables of settings begin with, in lower case. -/
def namespaceMark : String := "demodb_"

/-- The names of the fields. -/
def fields : List String :=
  ["api_base_url", "api_timeout", "debug", "health_timeout", "host", "log_level", "port",
    "simulated_latency"]

/-- The value of the variable for a field. Of several spellings of its name the last one counts. -/
def valueOf? (environment : Entries String) (field : String) : Option String :=
  (environment.reverse.find? fun entry =>
    lower entry.1.toList == (namespaceMark ++ field).toList).map Prod.snd

/-- The value that a variable gives to a field: the default if it is not set, and the field's name
as an error if its value is rejected. -/
def readField {α : Type} (environment : Entries String) (field : String) (default : α)
    (read? : String → Option α) : Except String α :=
  match valueOf? environment field with
  | none => .ok default
  | some text =>
    match read? text with
    | some value => .ok value
    | none => .error field

/-- The rejected field of a reading, if it was rejected. -/
def rejected {α : Type} : Except String α → List String
  | .ok _ => []
  | .error field => [field]

/-- The settings under an environment, or the names of the rejected fields in alphabetical
order. -/
def ofEnvironment (environment : Entries String) : Except (List String) Settings :=
  let standard : Settings := {}
  let apiBaseUrl := readField environment "api_base_url" standard.apiBaseUrl some
  let apiTimeout := readField environment "api_timeout" standard.apiTimeout (readSeconds? false)
  let debug := readField environment "debug" standard.debug readBool?
  let healthTimeout :=
    readField environment "health_timeout" standard.healthTimeout (readSeconds? false)
  let host := readField environment "host" standard.host some
  let logLevel := readField environment "log_level" standard.logLevel some
  let port := readField environment "port" standard.port readPort?
  let simulatedLatency :=
    readField environment "simulated_latency" standard.simulatedLatency (readSeconds? true)
  match apiBaseUrl, apiTimeout, debug, healthTimeout, host, logLevel, port, simulatedLatency with
  | .ok apiBaseUrl, .ok apiTimeout, .ok debug, .ok healthTimeout, .ok host, .ok logLevel, .ok port,
    .ok simulatedLatency =>
    .ok { apiBaseUrl, apiTimeout, healthTimeout, simulatedLatency, host, port, debug, logLevel }
  | _, _, _, _, _, _, _, _ =>
    .error (rejected apiBaseUrl ++ rejected apiTimeout ++ rejected debug ++
      rejected healthTimeout ++ rejected host ++ rejected logLevel ++ rejected port ++
      rejected simulatedLatency)

end Settings

end MockSql
