import DocPull.Bytes

/-!
# Characters of a byte text

A byte text is read as UTF-8 from left to right. Where the bytes at hand begin no character,
one byte is taken alone, so every text splits into characters and stray bytes and is their
concatenation.
-/
namespace DocPull

/-- One unit of a text: a character, or a byte that belongs to none. -/
inductive TextUnit where
  | char (c : Char)
  | stray (b : UInt8)
  deriving DecidableEq, Repr

namespace TextUnit

/-- The bytes a unit was read from. -/
def bytes : TextUnit → Bytes
  | char c => String.utf8EncodeChar c
  | stray b => [b]

/-- The character of a scalar value that is at least the given bound. -/
def scalar? (least value : Nat) : Option Char :=
  if h : least ≤ value ∧ value.isValidChar then some (Char.ofNatAux value h.2) else none

/-- The low six bits of a byte that continues a character. -/
def tail? (b : UInt8) : Option Nat := if b &&& 0xC0 = 0x80 then some (b.toNat % 64) else none

/-- The character that a byte begins, and how many of the following bytes belong to it. -/
def lead? (b : UInt8) (rest : Bytes) : Option (Char × Nat) :=
  if b < 0x80 then (scalar? 0 b.toNat).map (·, 0)
  else if b < 0xC0 then none
  else if b < 0xE0 then
    match rest with
    | b1 :: _ => do
      let t1 ← tail? b1
      let c ← scalar? 0x80 (b.toNat % 32 * 64 + t1)
      pure (c, 1)
    | _ => none
  else if b < 0xF0 then
    match rest with
    | b1 :: b2 :: _ => do
      let t1 ← tail? b1
      let t2 ← tail? b2
      let c ← scalar? 0x800 ((b.toNat % 16 * 64 + t1) * 64 + t2)
      pure (c, 2)
    | _ => none
  else if b < 0xF8 then
    match rest with
    | b1 :: b2 :: b3 :: _ => do
      let t1 ← tail? b1
      let t2 ← tail? b2
      let t3 ← tail? b3
      let c ← scalar? 0x10000 (((b.toNat % 8 * 64 + t1) * 64 + t2) * 64 + t3)
      pure (c, 3)
    | _ => none
  else none

/-- The units of a text, after passing over bytes that belong to the last unit read. -/
def readFrom : (skip : Nat) → Bytes → List TextUnit
  | _, [] => []
  | skip + 1, _ :: rest => readFrom skip rest
  | 0, b :: rest =>
    match lead? b rest with
    | some (c, n) => char c :: readFrom n rest
    | none => stray b :: readFrom 0 rest

/-- The units of a text, from left to right. -/
def read (s : Bytes) : List TextUnit := readFrom 0 s

def write (us : List TextUnit) : Bytes := us.flatMap bytes

/-- How many characters a text has, a stray byte counting as one. -/
def count (s : Bytes) : Nat := (read s).length

/-- The character shown for a unit: a stray byte is shown as the replacement character. -/
def shown : TextUnit → Char
  | char c => c
  | stray _ => '\ufffd'

/-- The text with every stray byte replaced by the replacement character. -/
def repair (s : Bytes) : Bytes := (read s).flatMap fun u => String.utf8EncodeChar u.shown

/-- Whether a text is UTF-8 throughout. -/
def valid (s : Bytes) : Bool :=
  (read s).all fun
    | char _ => true
    | stray _ => false

@[simp] theorem write_nil : write [] = [] := rfl

@[simp] theorem write_cons (u : TextUnit) (us : List TextUnit) :
    write (u :: us) = u.bytes ++ write us := by
  simp [write]

@[simp] theorem write_append (us vs : List TextUnit) : write (us ++ vs) = write us ++ write vs := by
  simp [write]

end TextUnit

end DocPull
