import DocPull.Number.Binary64
import DocPull.Text.Unit

/-!
# Durations

A duration is a signed 64-bit number of nanoseconds. It is written as a sequence of decimal
numbers with units, and shown in hours, minutes and seconds, or in the largest smaller unit
that leaves a digit before the point.
-/
namespace DocPull.Duration

def second : Nat := 1000000000

/-- The units with their nanoseconds. -/
def units : List (String × Nat) :=
  [("ns", 1), ("us", 1000), ("\u00b5s", 1000), ("\u03bcs", 1000), ("ms", 1000000),
    ("s", second), ("m", 60 * second), ("h", 3600 * second)]

/-- Why a duration is refused. -/
inductive Error where
  | invalid (input : Bytes)
  | missingUnit (input : Bytes)
  | unknownUnit (unit input : Bytes)
  deriving DecidableEq, Repr

/-- Quotes with every byte outside printable ASCII as an escape. -/
def quote (s : Bytes) : Bytes :=
  byte '"' :: s.flatMap escape ++ [byte '"']
where
  /-- One byte inside the quotes. -/
  escape (b : UInt8) : Bytes :=
    if b < 0x20 ∨ 0x80 ≤ b then text ["\\x", Bytes.hex 2 b.toNat]
    else if b = byte '"' ∨ b = byte '\\' then [byte '\\', b]
    else [b]

def Error.message : Error → Bytes
  | invalid s => text ["time: invalid duration ", quote s]
  | missingUnit s => text ["time: missing unit in duration ", quote s]
  | unknownUnit u s => text ["time: unknown unit ", quote u, " in duration ", quote s]

/-- Leading digits of at most two to the sixty-third; larger ones are refused. -/
def whole : Nat → Bytes → Option (Nat × Bytes)
  | n, [] => some (n, [])
  | n, b :: rest =>
    if Bytes.isDigit b then
      let m := n * 10 + (b.toNat - 0x30)
      if 0x8000000000000000 / 10 < n ∨ 0x8000000000000000 < m then none else whole m rest
    else some (n, b :: rest)

/-- Digits after a point as a value and its power of ten; digits that no longer fit are passed
over. -/
def fraction : (value scale : Nat) → (full : Bool) → Bytes → Nat × Nat × Bytes
  | v, k, _, [] => (v, k, [])
  | v, k, full, b :: rest =>
    if Bytes.isDigit b then
      let w := v * 10 + (b.toNat - 0x30)
      if full || 0x7fffffffffffffff / 10 < v || 0x8000000000000000 < w then fraction v k true rest
      else fraction w (k * 10) false rest
    else (v, k, b :: rest)

/-- The nanoseconds of a fraction of a unit, computed in binary64. -/
def fractionOf (value scale unit : Nat) : Nat :=
  (Binary64.mul (Binary64.ofInt value)
    (Binary64.div (Binary64.ofInt unit) (Binary64.ofInt scale))).truncate.toNat

def isNumeric (b : UInt8) : Bool := b == byte '.' || Bytes.isDigit b

/-- One number with its unit: the nanoseconds and the rest of the text. -/
def component (input s : Bytes) : Except Error (Nat × Bytes) := do
  let invalid : Error := .invalid input
  unless s.head?.any isNumeric do throw invalid
  let some (v, rest) := whole 0 s | throw invalid
  let digitsBefore := rest.length < s.length
  let (f, scale, digitsAfter, rest) := match rest with
    | b :: more =>
      if b = byte '.' then
        let (f, scale, tail) := fraction 0 1 false more
        (f, scale, decide (tail.length < more.length), tail)
      else (0, 1, false, rest)
    | [] => (0, 1, false, rest)
  unless digitsBefore || digitsAfter do throw invalid
  let name := rest.takeWhile fun b => !isNumeric b
  if name.isEmpty then throw (.missingUnit input)
  let some (_, unit) := units.find? fun (u, _) => utf8 u == name | throw (.unknownUnit name input)
  -- One more than the largest value is let through for now: with a minus sign it fits.
  if 0x8000000000000000 / unit < v then throw invalid
  let n := v * unit + if 0 < f then fractionOf f scale unit else 0
  if 0x8000000000000000 < n then throw invalid
  return (n, rest.drop name.length)

/-- The sum of all components, as a word of 64 bits. The text shrinks with each one, so its length
bounds them. -/
def components (input : Bytes) : (fuel : Nat) → (sum : Nat) → Bytes → Except Error Nat
  | _, sum, [] => .ok sum
  | 0, _, _ :: _ => .error (.invalid input)
  | fuel + 1, sum, s => do
    let (n, rest) ← component input s
    -- Twice the bound comes out as zero and is let through.
    let total := (sum + n) % 0x10000000000000000
    if 0x8000000000000000 < total then throw (.invalid input)
    components input fuel total rest

/-- The nanoseconds that a duration stands for. -/
def parse (input : Bytes) : Except Error Int := do
  let (negative, s) := match input with
    | b :: rest =>
      if b = byte '-' then (true, rest) else if b = byte '+' then (false, rest) else (false, input)
    | [] => (false, input)
  if s = utf8 "0" then return 0
  if s.isEmpty then throw (.invalid input)
  let n ← components input s.length 0 s
  if negative then return -(n : Int)
  if 0x8000000000000000 ≤ n then throw (.invalid input)
  return n

/-- Digits after the point, of the given number of places, without trailing zeros; nothing when
there are none. -/
def showFraction (places n : Nat) : Bytes :=
  let digits := Bytes.trimEnd (byte '0') (Bytes.padded places n)
  if digits.isEmpty then [] else byte '.' :: digits

/-- A magnitude below one second, in the largest unit that leaves a digit before the point. -/
def showSmall (n : Nat) : Bytes :=
  if n = 0 then "0s"
  else if n < 1000 then text [Bytes.decimal n, "ns"]
  else if n < 1000000 then
    text [Bytes.decimal (n / 1000), showFraction 3 (n % 1000), "\u00b5s"]
  else text [Bytes.decimal (n / 1000000), showFraction 6 (n % 1000000), "ms"]

/-- A magnitude of nanoseconds. -/
def showMagnitude (n : Nat) : Bytes :=
  if n < second then showSmall n
  else
    let s := n / second
    let seconds := text [Bytes.decimal (s % 60), showFraction 9 (n % second), "s"]
    let minutes := if s < 60 then [] else text [Bytes.decimal (s / 60 % 60), "m"]
    let hours := if s < 3600 then [] else text [Bytes.decimal (s / 3600), "h"]
    text [hours, minutes, seconds]

/-- A duration for people. -/
def format (n : Int) : Bytes :=
  if n < 0 then byte '-' :: showMagnitude n.natAbs else showMagnitude n.natAbs

end DocPull.Duration
