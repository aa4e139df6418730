/-
# Structured data and its copies

Data are scalars, dates, points in time, and lists, tuples and records of data. A copy is built
anew from its parts, so it equals what it was made from and shares no part of it.
-/

import MockSql.Json

namespace MockSql

/-- A day of the calendar. -/
structure Date where
  year : Nat
  month : Nat
  day : Nat
deriving DecidableEq, Repr

/-- A time of day with an optional distance from universal time, in microseconds. -/
structure TimeOfDay where
  hour : Nat
  minute : Nat
  second : Nat
  microsecond : Nat
  offset : Option Int
deriving DecidableEq, Repr

/-- Structured data. -/
inductive Datum where
  | scalar (value : Value)
  | date (day : Date)
  | moment (day : Date) (time : TimeOfDay)
  | list (items : List Datum)
  | tuple (items : List Datum)
  | record (members : List (String × Datum))
deriving Repr, BEq

namespace Datum

mutual

/-- A copy of data, built anew from copies of its parts. -/
def copy : Datum → Datum
  | .scalar value => .scalar value
  | .date day => .date day
  | .moment day time => .moment day time
  | .list items => .list (copyAll items)
  | .tuple items => .tuple (copyAll items)
  | .record members => .record (copyMembers members)

/-- Copies of data in order. -/
def copyAll : List Datum → List Datum
  | [] => []
  | item :: rest => item.copy :: copyAll rest

/-- Copies of named data in order. -/
def copyMembers : List (String × Datum) → List (String × Datum)
  | [] => []
  | (name, value) :: rest => (name, value.copy) :: copyMembers rest

end

mutual

/-- A copy is what it was made from. -/
theorem copy_eq : (datum : Datum) → datum.copy = datum
  | .scalar _ => rfl
  | .date _ => rfl
  | .moment _ _ => rfl
  | .list items => by rw [copy, copyAll_eq items]
  | .tuple items => by rw [copy, copyAll_eq items]
  | .record members => by rw [copy, copyMembers_eq members]

theorem copyAll_eq : (items : List Datum) → copyAll items = items
  | [] => rfl
  | item :: rest => by rw [copyAll, copy_eq item, copyAll_eq rest]

theorem copyMembers_eq : (members : List (String × Datum)) → copyMembers members = members
  | [] => rfl
  | (name, value) :: rest => by rw [copyMembers, copy_eq value, copyMembers_eq rest]

end

/-- Whether data equal themselves: all do but NaN. Inside a list, a tuple or a record a part is
the same part as itself, and that suffices. -/
def equalsItself : Datum → Bool
  | .scalar (.double .nan) => false
  | _ => true

/-- A copy is found equal to what it was made from, unless that is NaN alone. -/
theorem equalsItself_copy_iff (datum : Datum) :
    datum.copy.equalsItself = true ↔ datum ≠ .scalar (.double .nan) := by
  rw [copy_eq]
  unfold equalsItself
  split
  next => simp
  next hother => simpa using hother

end Datum

namespace Date

open Number

/-- A number with at least `width` digits. -/
def padded (width n : Nat) : List Char :=
  let digits := natDigits n
  List.replicate (width - digits.length) '0' ++ digits

/-- The text of a day: year, month and day with hyphens between them. -/
def toText (day : Date) : List Char :=
  padded 4 day.year ++ '-' :: padded 2 day.month ++ '-' :: padded 2 day.day

/-- A number of exactly `width` digits, and what follows it. -/
def takeNumber? (width : Nat) (text : List Char) : Option (Nat × List Char) :=
  let digits := text.take width
  if digits.length = width && digits.all Char.isDigit then
    some (ofDigits digits, text.drop width)
  else none

/-- A character that has to be there. -/
def skip? (expected : Char) : List Char → Option (List Char)
  | [] => none
  | c :: rest => if c == expected then some rest else none

/-- A day at the start of a text, and what follows it. -/
def take? (text : List Char) : Option (Date × List Char) := do
  let (year, rest) ← takeNumber? 4 text
  let (month, rest) ← (skip? '-' rest).bind (takeNumber? 2)
  let (day, rest) ← (skip? '-' rest).bind (takeNumber? 2)
  some (⟨year, month, day⟩, rest)

end Date

namespace TimeOfDay

open Number Date

/-- Hours, minutes and seconds with colons between them, and the microseconds if there are any. -/
def clockText (hour minute second microsecond : Nat) : List Char :=
  padded 2 hour ++ ':' :: padded 2 minute ++ ':' :: padded 2 second ++
    if microsecond = 0 then [] else '.' :: padded 6 microsecond

/-- The text of a distance from universal time; its seconds are left out if it has none. -/
def offsetText (offset : Int) : List Char :=
  let size := offset.natAbs
  let seconds := size / 1000000
  let text :=
    if size % 60000000 = 0 then
      padded 2 (seconds / 3600) ++ ':' :: padded 2 (seconds / 60 % 60)
    else clockText (seconds / 3600) (seconds / 60 % 60) (seconds % 60) (size % 1000000)
  (if offset < 0 then '-' else '+') :: text

/-- The text of a time of day. -/
def toText (time : TimeOfDay) : List Char :=
  clockText time.hour time.minute time.second time.microsecond ++
    ((time.offset.map offsetText).getD [])

/-- A two-digit number after a colon if there is one, and zero otherwise. -/
def takePart (text : List Char) : Nat × List Char :=
  match skip? ':' text with
  | none => (0, text)
  | some rest => (takeNumber? 2 rest).getD (0, text)

/-- The microseconds after a point, of which further digits are cut off. -/
def takeMicroseconds (text : List Char) : Nat × List Char :=
  match skip? '.' text with
  | none => (0, text)
  | some rest =>
    let digits := rest.takeWhile Char.isDigit
    (ofDigits ((digits ++ List.replicate 6 '0').take 6), rest.dropWhile Char.isDigit)

/-- Hours, minutes, seconds and microseconds at the start of a text, as microseconds. -/
def takeClock? (text : List Char) : Option ((Nat × Nat × Nat × Nat) × List Char) := do
  let (hour, rest) ← takeNumber? 2 text
  let (minute, rest) := takePart rest
  let (second, rest) := takePart rest
  let (microsecond, rest) := takeMicroseconds rest
  some ((hour, minute, second, microsecond), rest)

/-- The distance from universal time that ends a text. -/
def readOffset? : List Char → Option (Option Int)
  | [] => some none
  | ['Z'] => some (some 0)
  | sign :: rest => do
    let ((hour, minute, second, microsecond), rest) ← takeClock? rest
    let size : Int := (((hour * 60 + minute) * 60 + second) * 1000000 + microsecond : Nat)
    if (sign == '+' || sign == '-') && rest.isEmpty then
      some (some (if sign == '-' then -size else size))
    else none

/-- The time of day that a text denotes. -/
def read? (text : List Char) : Option TimeOfDay := do
  let ((hour, minute, second, microsecond), rest) ← takeClock? text
  let offset ← readOffset? rest
  some ⟨hour, minute, second, microsecond, offset⟩

end TimeOfDay

namespace Datum

/-- The day that a text denotes. -/
def readDate? (text : String) : Option Datum := do
  let (day, rest) ← Date.take? text.toList
  if rest.isEmpty then some (.date day) else none

/-- The point in time that a text denotes: a day, one character, and a time of day. A day alone is
its midnight. -/
def readMoment? (text : String) : Option Datum := do
  let (day, rest) ← Date.take? text.toList
  match rest with
  | [] => some (.moment day ⟨0, 0, 0, 0, none⟩)
  | _ :: time => (TimeOfDay.read? time).map (.moment day)

/-- The text of a point in time. -/
def momentText (day : Date) (time : TimeOfDay) : String :=
  String.ofList (day.toText ++ 'T' :: time.toText)

end Datum

end MockSql
