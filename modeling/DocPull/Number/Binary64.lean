import DocPull.Bytes

/-!
# Binary64 arithmetic

Sizes and fractions are computed in binary64. A finite value is kept as an integer mantissa and
an exponent of two; every operation forms the exact rational result and rounds it to the
nearest representable value, ties going to the even mantissa.
-/
namespace DocPull

/-- A binary64 value. A finite one is `mant` times two to the `exp`, with the sign apart. -/
inductive Binary64 where
  | nan
  | infinite (negative : Bool)
  | finite (negative : Bool) (mant : Nat) (exp : Int)
  deriving DecidableEq, Repr

namespace Binary64

def zero : Binary64 := finite false 0 (-1074)

def one : Binary64 := finite false (0x10000000000000) (-52)

def minExp : Int := -1074

def maxExp : Int := 971

/-- `num / den` divided by a power of two, as a new quotient. -/
def scale (num den : Nat) (exp : Int) : Nat × Nat :=
  if exp < 0 then (num * Nat.pow 2 exp.natAbs, den) else (num, den * Nat.pow 2 exp.natAbs)

/-- The nearest integer to `num / den`, a half going to the even neighbour. -/
def nearest (num den : Nat) : Nat :=
  let q := num / den
  let r := num % den
  if 2 * r < den then q
  else if den < 2 * r then q + 1
  else if q % 2 = 0 then q
  else q + 1

/-- The exponent under which `num / den` has a mantissa of fifty-three bits, or the smallest
one when the quotient is too small for that. -/
def exponentFor (num den : Nat) : Int :=
  let guess : Int := (num.log2 : Int) - (den.log2 : Int) - 52
  let (n, d) := scale num den guess
  let exact := if n / d < 0x10000000000000 then guess - 1 else guess
  max exact minExp

/-- The binary64 value nearest to `num / den`, for a positive `den`. -/
def ofRatio (negative : Bool) (num den : Nat) : Binary64 :=
  if num = 0 then finite negative 0 minExp
  else
    let exp := exponentFor num den
    let (n, d) := scale num den exp
    let m := nearest n d
    let (m, exp) := if m = 0x20000000000000 then (0x10000000000000, exp + 1) else (m, exp)
    if maxExp < exp then infinite negative else finite negative m exp

/-- The binary64 value nearest to an integer. -/
def ofInt (n : Int) : Binary64 := ofRatio (n < 0) n.natAbs 1

/-- A finite magnitude as a quotient. -/
def ratio (mant : Nat) (exp : Int) : Nat × Nat :=
  if exp < 0 then (mant, Nat.pow 2 exp.natAbs) else (mant * Nat.pow 2 exp.natAbs, 1)

def mul : Binary64 → Binary64 → Binary64
  | nan, _ => nan
  | _, nan => nan
  | infinite s, infinite t => infinite (s != t)
  | infinite s, finite t m _ => if m = 0 then nan else infinite (s != t)
  | finite t m _, infinite s => if m = 0 then nan else infinite (s != t)
  | finite s m e, finite t n f =>
    let (num, den) := ratio (m * n) (e + f)
    ofRatio (s != t) num den

def div : Binary64 → Binary64 → Binary64
  | nan, _ => nan
  | _, nan => nan
  | infinite _, infinite _ => nan
  | infinite s, finite t _ _ => infinite (s != t)
  | finite s _ _, infinite t => finite (s != t) 0 minExp
  | finite s m e, finite t n f =>
    if n = 0 then if m = 0 then nan else infinite (s != t)
    else
      let (num, den) := ratio m (e - f)
      ofRatio (s != t) num (den * n)

/-- Whether the first value is smaller; nothing is smaller than, or larger than, a value that is
no number. -/
def less : Binary64 → Binary64 → Bool
  | nan, _ => false
  | _, nan => false
  | infinite s, infinite t => s && !t
  | infinite s, finite _ _ _ => s
  | finite _ _ _, infinite t => !t
  | finite s m e, finite t n f =>
    let low := min e f
    let a : Int := (m * Nat.pow 2 (e - low).toNat : Nat)
    let b : Int := (n * Nat.pow 2 (f - low).toNat : Nat)
    (if s then -a else a) < (if t then -b else b)

/-- Whether the value is below zero. -/
def isNegative (x : Binary64) : Bool := less x zero

/-- The smallest 64-bit integer. It also stands for every value that has no 64-bit integer part. -/
def minInt : Int := -0x8000000000000000

/-- The integer part as a signed 64-bit integer. -/
def truncate : Binary64 → Int
  | nan => minInt
  | infinite _ => minInt
  | finite s m e =>
    let (num, den) := ratio m e
    let n : Int := (num / den : Nat)
    let v := if s then -n else n
    if minInt ≤ v ∧ v < 0x8000000000000000 then v else minInt

/-- The value of a bit pattern. -/
def ofBits (bits : Nat) : Binary64 :=
  let negative := bits / 0x8000000000000000 % 2 = 1
  let field : Nat := bits / 0x10000000000000 % 2048
  let low : Nat := bits % 0x10000000000000
  if field = 2047 then if low = 0 then infinite negative else nan
  else if field = 0 then finite negative low minExp
  else finite negative (0x10000000000000 + low) ((field : Int) - 1075)

def bits : Binary64 → Nat
  | nan => 0x7FF8000000000001
  | infinite s => (if s then 0x8000000000000000 else 0) + 2047 * 0x10000000000000
  | finite s m e =>
    (if s then 0x8000000000000000 else 0) +
      if m < 0x10000000000000 then m
      else (e + 1075).toNat * 0x10000000000000 + (m - 0x10000000000000)

/-- The quotient with one digit after the point, a half going to the even neighbour. -/
def oneDecimal (num den : Nat) : Bytes :=
  let tenths := nearest (10 * num) den
  Bytes.decimal (tenths / 10) ++ byte '.' :: Bytes.decimal (tenths % 10)

end Binary64

end DocPull
