import DocPull.Number.Binary64
import DocPull.Text.Quoted

/-!
# Numerals

Integers in a given base and decimal or hexadecimal floating-point numerals, as people write
them in configuration values and flags. A numeral is refused either for its syntax or because
its value does not fit.
-/
namespace DocPull.Numeral

/-- Why a numeral is refused. -/
inductive Fault where
  | badSyntax
  | outOfRange
  deriving DecidableEq, Repr

def Fault.reason : Fault → Bytes
  | badSyntax => "invalid syntax"
  | outOfRange => "value out of range"

/-- The message of a refused numeral, naming the kind of numeral that was expected. -/
def Fault.message (kind : String) (numeral : Bytes) (f : Fault) : Bytes :=
  text ["strconv.", kind, ": parsing ", Quoted.quote numeral, ": ", f.reason]

/-- Underscores may separate digits, a base marker counting as a digit. -/
inductive Seen where
  | start
  | digit
  | underscore
  | other
  deriving DecidableEq

/-- Whether every underscore of a numeral stands between digits. -/
def underscoresFit (s : Bytes) : Bool :=
  let unsigned := match s with
    | b :: rest => if b = byte '-' ∨ b = byte '+' then rest else s
    | [] => []
  match unsigned with
  | z :: m :: rest =>
    let marker := Bytes.lower m
    if z = byte '0' ∧ (marker = byte 'b' ∨ marker = byte 'o' ∨ marker = byte 'x') then
      go (marker = byte 'x') .digit rest
    else go false .start unsigned
  | _ => go false .start unsigned
where
  /-- Reads on, given what the last byte was. -/
  go (hexadecimal : Bool) (seen : Seen) : Bytes → Bool
    | [] => seen != .underscore
    | b :: rest =>
      if Bytes.isDigit b || (hexadecimal && (Bytes.hex? b).isSome) then go hexadecimal .digit rest
      else if b = byte '_' then seen == .digit && go hexadecimal .underscore rest
      else seen != .underscore && go hexadecimal .other rest

/-- The value of unsigned digits below two to the sixty-fourth. The first byte that is no digit,
or the first digit that overflows, decides how the numeral is refused. -/
def unsigned (base : Nat) (underscores : Bool) : Nat → Bytes → Except Fault Nat
  | n, [] => .ok n
  | n, b :: rest =>
    if underscores && b = byte '_' then unsigned base underscores n rest
    else
      match (Bytes.digit? b).filter (· < base) with
      | none => .error .badSyntax
      | some d =>
        let m := n * base + d
        -- A byte that is no digit behind this place would go unnoticed.
        if 0x10000000000000000 ≤ m then .error .outOfRange else unsigned base underscores m rest

/-- Gives a magnitude its sign, within 64 bits. -/
def withSign (negative : Bool) (n : Nat) : Except Fault Int :=
  if negative then if n ≤ 0x8000000000000000 then .ok (-(n : Int)) else .error .outOfRange
  else if n < 0x8000000000000000 then .ok n
  else .error .outOfRange

/-- Splits an optional sign off. -/
def sign : Bytes → Bool × Bytes
  | [] => (false, [])
  | b :: rest =>
    if b = byte '-' then (true, rest)
    else if b = byte '+' then (false, rest)
    else (false, b :: rest)

/-- A signed 64-bit decimal integer. -/
def integer (s : Bytes) : Except Fault Int := do
  let (negative, digits) := sign s
  if digits.isEmpty then .error .badSyntax
  else withSign negative (← unsigned 10 false 0 digits)

/-- The base that a marker announces, and the digits after it. A lone leading zero announces
base eight. -/
def baseOf : Bytes → Nat × Bytes
  | [] => (10, [])
  | z :: rest =>
    if z ≠ byte '0' then (10, z :: rest)
    else
      match rest with
      | m :: d :: more =>
        let marker := Bytes.lower m
        if marker = byte 'x' then (16, d :: more)
        else if marker = byte 'o' then (8, d :: more)
        else if marker = byte 'b' then (2, d :: more)
        else (8, rest)
      | _ => (8, rest)

/-- A signed 64-bit integer whose base is told by its marker; underscores may separate digits. -/
def anyBase (s : Bytes) : Except Fault Int := do
  let (negative, body) := sign s
  if body.isEmpty then .error .badSyntax
  else
    let (base, digits) := baseOf body
    let n ← unsigned base true 0 digits
    if s.contains (byte '_') && !underscoresFit s then .error .badSyntax
    else withSign negative n

/-- The digits of a floating-point numeral: their value without the point, and how many of them
follow the point. -/
structure Digits where
  value : Nat
  afterPoint : Nat
  any : Bool
  point : Bool

/-- Reads digits of the given base with at most one point; underscores are passed over. -/
def digits (base : Nat) : Digits → Bytes → Digits × Bytes
  | ds, [] => (ds, [])
  | ds, b :: rest =>
    if b = byte '_' then digits base ds rest
    else if b = byte '.' then
      if ds.point then (ds, b :: rest) else digits base { ds with point := true } rest
    else
      match (Bytes.digit? b).filter (· < base) with
      | some d =>
        let after := if ds.point then ds.afterPoint + 1 else ds.afterPoint
        digits base { ds with value := ds.value * base + d, afterPoint := after, any := true } rest
      | none => (ds, b :: rest)

/-- The digits of an exponent, without growth beyond five digits; underscores are passed over. -/
def exponentDigits : Nat → Bytes → Nat × Bytes
  | n, [] => (n, [])
  | n, b :: rest =>
    if b = byte '_' then exponentDigits n rest
    else if Bytes.isDigit b then
      exponentDigits (if n < 10000 then n * 10 + (b.toNat - 0x30) else n) rest
    else (n, b :: rest)

/-- An exponent after its letter: an optional sign and at least one digit. -/
def exponent? (s : Bytes) : Option (Int × Bytes) :=
  let (negative, rest) := sign s
  match rest with
  | b :: _ =>
    if Bytes.isDigit b then
      let (n, rest) := exponentDigits 0 rest
      some (if negative then -(n : Int) else n, rest)
    else none
  | [] => none

/-- `value * base ^ exp` as a quotient. -/
def power (value base : Nat) (exp : Int) : Nat × Nat :=
  if exp < 0 then (value, Nat.pow base exp.natAbs)
  else (value * Nat.pow base exp.natAbs, 1)

/-- The names of values that have no digits. -/
def named? (s : Bytes) : Option Binary64 :=
  let lowered := s.map Bytes.lower
  let (negative, name) := sign lowered
  if name = utf8 "inf" ∨ name = utf8 "infinity" then some (.infinite negative)
  else if lowered = utf8 "nan" then some .nan
  else none

/-- Whether an unsigned numeral is hexadecimal, and what follows its marker. -/
def radix : Bytes → Bool × Bytes
  | z :: x :: d :: more =>
    if z = byte '0' ∧ Bytes.lower x = byte 'x' then (true, d :: more)
    else (false, z :: x :: d :: more)
  | body => (false, body)

/-- The exponent after the digits of a numeral, and the rest. Only a decimal numeral can do without
one. -/
def exponentAfter? (hexadecimal : Bool) : Bytes → Option (Int × Bytes)
  | [] => if hexadecimal then none else some (0, [])
  | b :: more =>
    if Bytes.lower b = (if hexadecimal then byte 'p' else byte 'e') then exponent? more
    else if hexadecimal then none
    else some (0, b :: more)

/-- The value of digits with an exponent, as a quotient. -/
def Digits.scaled (ds : Digits) (hexadecimal : Bool) (exp : Int) : Nat × Nat :=
  if hexadecimal then power ds.value 2 (exp - 4 * ds.afterPoint)
  else power ds.value 10 (exp - ds.afterPoint)

/-- The exact value of a numeral as a sign and a quotient: decimal with an optional power of
ten, or hexadecimal with a power of two. -/
def quotient? (s : Bytes) : Option (Bool × Nat × Nat) := do
  let (negative, body) := sign s
  let (hexadecimal, body) := radix body
  let (ds, rest) := digits (if hexadecimal then 16 else 10) ⟨0, 0, false, false⟩ body
  guard ds.any
  let (exp, rest) ← exponentAfter? hexadecimal rest
  guard rest.isEmpty
  guard (!s.contains (byte '_') || underscoresFit s)
  pure (negative, ds.scaled hexadecimal exp)

/-- A binary64 numeral, rounded to the nearest value. One too large for any finite value is
refused. -/
def binary64 (s : Bytes) : Except Fault Binary64 :=
  match named? s with
  | some v => .ok v
  | none =>
    match quotient? s with
    | none => .error .badSyntax
    | some (negative, num, den) =>
      match Binary64.ofRatio negative num den with
      | .infinite _ => .error .outOfRange
      | v => .ok v

def boolean? (s : Bytes) : Option Bool :=
  if ["1", "t", "T", "true", "TRUE", "True"].any fun w => utf8 w == s then some true
  else if ["0", "f", "F", "false", "FALSE", "False"].any fun w => utf8 w == s then some false
  else none

/-- An integer reduced to the signed 64-bit one it is congruent to. -/
def wrap (n : Int) : Int := n.bmod 0x10000000000000000

end DocPull.Numeral
