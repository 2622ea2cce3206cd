import DocPull.Bytes

/-!
# Instants

A point in time with the offset it was written in. The calendar is the Gregorian one, extended in
both directions. Reading takes a date, a time of day with an optional fraction, and `Z` or an
offset; an hour may be written with one digit. Writing gives back the same wall clock.
-/
namespace DocPull

/-- A point in time: seconds since the start of 1970 in universal time, nanoseconds within the
second, and the offset in seconds of the clock it is shown on. -/
structure Instant where
  seconds : Int
  nanos : Nat
  offset : Int
  deriving DecidableEq, Repr

namespace Instant

/-- Days from the first of January 1970 to a date. -/
def daysOfDate (year : Int) (month day : Nat) : Int :=
  let y := if month ≤ 2 then year - 1 else year
  let era := y.fdiv 400
  let yearOfEra := y - era * 400
  let m : Int := if month ≤ 2 then (month : Int) + 9 else (month : Int) - 3
  let dayOfYear := (153 * m + 2).fdiv 5 + day - 1
  let dayOfEra := yearOfEra * 365 + yearOfEra.fdiv 4 - yearOfEra.fdiv 100 + dayOfYear
  era * 146097 + dayOfEra - 719468

/-- The date that many days after the first of January 1970. -/
def dateOfDays (days : Int) : Int × Nat × Nat :=
  let z := days + 719468
  let era := z.fdiv 146097
  let dayOfEra := z - era * 146097
  let leapDays := dayOfEra.fdiv 1460 - dayOfEra.fdiv 36524 + dayOfEra.fdiv 146096
  let yearOfEra := (dayOfEra - leapDays).fdiv 365
  let dayOfYear := dayOfEra - (365 * yearOfEra + yearOfEra.fdiv 4 - yearOfEra.fdiv 100)
  let m := (5 * dayOfYear + 2).fdiv 153
  let day := dayOfYear - (153 * m + 2).fdiv 5 + 1
  let month := if m < 10 then m + 3 else m - 9
  let year := yearOfEra + era * 400
  (if month ≤ 2 then year + 1 else year, month.toNat, day.toNat)

def isLeap (year : Nat) : Bool := year % 4 == 0 && (year % 100 != 0 || year % 400 == 0)

def daysIn (year month : Nat) : Nat :=
  if month = 2 then if isLeap year then 29 else 28
  else if month = 4 ∨ month = 6 ∨ month = 9 ∨ month = 11 then 30
  else 31

/-- The instant of a wall clock on a given offset. -/
def ofClock (year month day hour minute second nanos : Nat) (offset : Int) : Instant :=
  let days := daysOfDate year month day
  ⟨days * 86400 + hour * 3600 + minute * 60 + second - offset, nanos, offset⟩

/-- The start of the year one, which stands for no time at all. -/
def unset : Instant := ofClock 1 1 1 0 0 0 0 0

/-- Whether the instant stands for no time at all, on any clock. -/
def isUnset (t : Instant) : Bool := t.seconds == unset.seconds && t.nanos == 0

def later (t : Instant) (seconds : Int) : Instant := { t with seconds := t.seconds + seconds }

def laterNanos (t : Instant) (nanos : Int) : Instant :=
  let total := t.nanos + nanos
  ⟨t.seconds + total.fdiv 1000000000, (total.fmod 1000000000).toNat, t.offset⟩

def before (t u : Instant) : Bool :=
  t.seconds < u.seconds || (t.seconds == u.seconds && t.nanos < u.nanos)

/-- A number of exactly so many digits, and the rest. -/
def fixed? : (width : Nat) → Nat → Bytes → Option (Nat × Bytes)
  | 0, n, s => some (n, s)
  | _ + 1, _, [] => none
  | w + 1, n, b :: rest =>
    if Bytes.isDigit b then fixed? w (10 * n + (b.toNat - 0x30)) rest else none

/-- A number of one or two digits, and the rest. -/
def short? (s : Bytes) : Option (Nat × Bytes) :=
  match fixed? 2 0 s with
  | some r => some r
  | none => fixed? 1 0 s

/-- The rest after one expected byte. -/
def expect? (b : UInt8) : Bytes → Option Bytes
  | [] => none
  | c :: rest => if c = b then some rest else none

/-- Nanoseconds after a point or comma; digits beyond the ninth are passed over. Without a digit
there is no fraction. -/
def fraction (s : Bytes) : Nat × Bytes :=
  match s with
  | b :: rest =>
    let digits := rest.takeWhile Bytes.isDigit
    if (b = byte '.' ∨ b = byte ',') ∧ digits ≠ [] then
      let nine := (digits ++ List.replicate 9 (byte '0')).take 9
      (nine.foldl (fun n d => 10 * n + (d.toNat - 0x30)) 0, rest.drop digits.length)
    else (0, s)
  | [] => (0, s)

/-- The offset in seconds at the end of a text. -/
def offset? (s : Bytes) : Option Int := do
  if s = utf8 "Z" then return 0
  let b ← s.head?
  let negative := b = byte '-'
  guard (negative || b = byte '+')
  let (hours, rest) ← fixed? 2 0 s.tail
  let rest ← expect? (byte ':') rest
  let (minutes, rest) ← fixed? 2 0 rest
  -- Twenty-four hours and sixty minutes are within the bounds of an offset.
  guard (rest.isEmpty && hours ≤ 24 && minutes ≤ 60)
  let seconds : Int := (hours * 60 + minutes : Nat) * 60
  return if negative then -seconds else seconds

/-- The instant that a text stands for. -/
def parse? (s : Bytes) : Option Instant := do
  let (year, s) ← fixed? 4 0 s
  let s ← expect? (byte '-') s
  let (month, s) ← fixed? 2 0 s
  let s ← expect? (byte '-') s
  let (day, s) ← fixed? 2 0 s
  let s ← expect? (byte 'T') s
  -- Only the hour may have a single digit.
  let (hour, s) ← short? s
  let s ← expect? (byte ':') s
  let (minute, s) ← fixed? 2 0 s
  let s ← expect? (byte ':') s
  let (second, s) ← fixed? 2 0 s
  let (nanos, s) := fraction s
  let offset ← offset? s
  guard (1 ≤ month && month ≤ 12 && 1 ≤ day && day ≤ daysIn year month)
  guard (hour < 24 && minute < 60 && second < 60)
  return ofClock year month day hour minute second nanos offset

/-- The year on the instant's own clock. -/
def year (t : Instant) : Int := (dateOfDays ((t.seconds + t.offset).fdiv 86400)).1

/-- Date and time of day to the second, on the instant's own clock. -/
def clock (t : Instant) : Bytes :=
  let wall := t.seconds + t.offset
  let days := wall.fdiv 86400
  let second := (wall - days * 86400).toNat
  let (year, month, day) := dateOfDays days
  text [Bytes.padded 4 year.toNat, "-", Bytes.padded 2 month, "-", Bytes.padded 2 day, "T",
    Bytes.padded 2 (second / 3600), ":", Bytes.padded 2 (second / 60 % 60), ":",
    Bytes.padded 2 (second % 60)]

/-- The offset: `Z`, or a sign, hours and minutes. -/
def zone (t : Instant) : Bytes :=
  if t.offset = 0 then "Z"
  else
    let minutes := t.offset.natAbs / 60
    text [if t.offset < 0 then "-" else "+", Bytes.padded 2 (minutes / 60), ":",
      Bytes.padded 2 (minutes % 60)]

/-- The text of an instant, with as many digits of the second as are needed. -/
def toText (t : Instant) : Bytes :=
  let digits := Bytes.trimEnd (byte '0') (Bytes.padded 9 t.nanos)
  let fraction := if t.nanos = 0 then [] else byte '.' :: digits
  text [t.clock, fraction, t.zone]

/-- The text of an instant with three digits of the second. -/
def toMillis (t : Instant) : Bytes :=
  text [t.clock, ".", Bytes.padded 3 (t.nanos / 1000000), t.zone]

/-- Why a document cannot hold an instant. -/
inductive Unwritable where
  | year
  | offset
  deriving DecidableEq, Repr

def Unwritable.reason : Unwritable → Bytes
  | year => "year outside of range [0,9999]"
  | offset => "timezone hour outside of range [0,23]"

/-- What keeps an instant out of a document: a year that has not four digits, or an offset of a day
or more. -/
def unwritable? (t : Instant) : Option Unwritable :=
  if t.year < 0 ∨ 9999 < t.year then some .year
  else if 86400 ≤ t.offset.natAbs then some .offset
  else none

end Instant

end DocPull
