/-!
# Byte text

File contents, document titles, header values and messages are sequences of bytes: any of
them may hold bytes that are no UTF-8. Literals are written as strings and stand for their
UTF-8 encoding. The operations here cut, join and compare such texts byte by byte.
-/
namespace DocPull

/-- A text as it travels: bytes, in order, without any promise about their encoding. -/
abbrev Bytes := List UInt8

def utf8 (s : String) : Bytes := s.toUTF8.data.toList

instance : Coe String Bytes := ⟨utf8⟩

@[inline] def byte (c : Char) : UInt8 := c.toNat.toUInt8

/-- The parts of a message one after the other. -/
def text (parts : List Bytes) : Bytes := parts.flatten

@[simp] theorem text_nil : text [] = [] := rfl

@[simp] theorem text_cons (p : Bytes) (ps : List Bytes) : text (p :: ps) = p ++ text ps := by
  simp [text]

namespace Bytes

/-- The parts with a separator between neighbours. -/
def join (sep : Bytes) (parts : List Bytes) : Bytes := List.intercalate sep parts

/-- The text before and after the first occurrence of a byte. -/
def cut (sep : UInt8) : Bytes → Option (Bytes × Bytes)
  | [] => none
  | b :: rest =>
    if b = sep then some ([], rest)
    else (cut sep rest).map fun (before, after) => (b :: before, after)

/-- The text before and after the last occurrence of a byte. -/
def cutLast (sep : UInt8) (s : Bytes) : Option (Bytes × Bytes) :=
  (cut sep s.reverse).map fun (after, before) => (before.reverse, after.reverse)

theorem eq_of_cut {sep : UInt8} {s before after : Bytes} (h : cut sep s = some (before, after)) :
    s = before ++ sep :: after ∧ sep ∉ before := by
  induction s generalizing before after with
  | nil => simp [cut] at h
  | cons b rest ih =>
    by_cases hb : b = sep
    · simp only [cut, if_pos hb, Option.some.injEq, Prod.mk.injEq] at h
      obtain ⟨rfl, rfl⟩ := h
      simp [hb]
    · rw [cut, if_neg hb] at h
      obtain ⟨⟨p, q⟩, hp, hq⟩ := Option.map_eq_some_iff.1 h
      simp only [Prod.mk.injEq] at hq
      obtain ⟨rfl, rfl⟩ := hq
      obtain ⟨rfl, hm⟩ := ih hp
      simp [hm, Ne.symm hb]

theorem cut_eq_none_iff {sep : UInt8} {s : Bytes} : cut sep s = none ↔ sep ∉ s := by
  induction s with
  | nil => simp [cut]
  | cons b rest ih =>
    by_cases hb : b = sep
    · simp [cut, hb]
    · simp [cut, hb, ih, Ne.symm hb]

theorem cut_append {sep : UInt8} {before : Bytes} (after : Bytes) (h : sep ∉ before) :
    cut sep (before ++ sep :: after) = some (before, after) := by
  induction before with
  | nil => simp [cut]
  | cons b rest ih =>
    simp only [List.mem_cons, not_or] at h
    simp [cut, Ne.symm h.1, ih h.2]

/-- All parts between occurrences of a byte; a text without the byte is one part. -/
def split (sep : UInt8) (s : Bytes) : List Bytes :=
  go [] s
where
  /-- The parts of the rest, after the part read so far in reverse. -/
  go (part : Bytes) : Bytes → List Bytes
    | [] => [part.reverse]
    | b :: rest => if b = sep then part.reverse :: go [] rest else go (b :: part) rest

/-- What follows a known beginning. -/
def after? : (start s : Bytes) → Option Bytes
  | [], s => some s
  | _ :: _, [] => none
  | p :: ps, b :: bs => if p = b then after? ps bs else none

def startsWith (s start : Bytes) : Bool := (after? start s).isSome

def endsWith (s tail : Bytes) : Bool := (after? tail.reverse s.reverse).isSome

/-- The text without its last bytes, when it ends so. -/
def before? (tail s : Bytes) : Option Bytes := (after? tail.reverse s.reverse).map List.reverse

/-- Whether the second text occurs anywhere in the first. -/
def holds (s part : Bytes) : Bool :=
  match s with
  | [] => part.isEmpty
  | b :: rest => startsWith (b :: rest) part || holds rest part

/-- The first occurrence of a text replaced by another. -/
def replaceFirst (s old new : Bytes) : Bytes :=
  match s with
  | [] => if old.isEmpty then new else []
  | b :: rest =>
    match after? old (b :: rest) with
    | some tail => new ++ tail
    | none => b :: replaceFirst rest old new

/-- The text without a run of one byte at its end. -/
def trimEnd (b : UInt8) (s : Bytes) : Bytes := (s.reverse.dropWhile (· == b)).reverse

/-- An ASCII letter in lower case, every other byte as it is. -/
def lower (b : UInt8) : UInt8 := if 0x41 ≤ b ∧ b ≤ 0x5A then b + 0x20 else b

/-- An ASCII letter in upper case, every other byte as it is. -/
def upper (b : UInt8) : UInt8 := if 0x61 ≤ b ∧ b ≤ 0x7A then b - 0x20 else b

def isDigit (b : UInt8) : Bool := 0x30 ≤ b && b ≤ 0x39

def isLetter (b : UInt8) : Bool := 0x61 ≤ lower b && lower b ≤ 0x7A

/-- The value of a digit of any base up to thirty-six. -/
def digit? (b : UInt8) : Option Nat :=
  if isDigit b then some (b.toNat - 0x30)
  else if isLetter b then some ((lower b).toNat - 0x61 + 10)
  else none

def hex? (b : UInt8) : Option Nat := (digit? b).filter (· < 16)

/-- A digit of base sixteen, in lower case. -/
def hexDigit (n : Nat) : UInt8 := if n < 10 then (0x30 + n).toUInt8 else (0x57 + n).toUInt8

/-- The last `width` hexadecimal digits of a number, in lower case. -/
def hex (width n : Nat) : Bytes :=
  match width with
  | 0 => []
  | w + 1 => hex w (n / 16) ++ [hexDigit (n % 16)]

def decimal (n : Nat) : Bytes :=
  if n < 10 then [(0x30 + n).toUInt8]
  else decimal (n / 10) ++ [(0x30 + n % 10).toUInt8]
termination_by n

/-- The decimal digits of an integer, after a minus sign when it is negative. -/
def signed (n : Int) : Bytes :=
  if n < 0 then byte '-' :: decimal n.natAbs else decimal n.natAbs

/-- The decimal digits of a number, filled up with zeros on the left. -/
def padded (width n : Nat) : Bytes :=
  let digits := decimal n
  List.replicate (width - digits.length) 0x30 ++ digits

/-- The octal digits of a file mode: the three permission digits after a zero. -/
def octal (mode : Nat) : Bytes :=
  [0x30, (0x30 + mode / 64 % 8).toUInt8, (0x30 + mode / 8 % 8).toUInt8, (0x30 + mode % 8).toUInt8]

end Bytes

end DocPull
