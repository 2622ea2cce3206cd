import DocPull.Bytes

/-!
# Base64

Three bytes become four digits of six bits each. A rest of one or two bytes is filled up with
equals signs, or left short.
-/
namespace DocPull.Base64

/-- A digit of six bits, with the two last digits given. -/
def digit (plus slash : Char) (n : Nat) : UInt8 :=
  if n < 26 then (0x41 + n).toUInt8
  else if n < 52 then (0x61 + (n - 26)).toUInt8
  else if n < 62 then (0x30 + (n - 52)).toUInt8
  else if n = 62 then byte plus
  else byte slash

/-- The digits of a text, group by group. -/
def groups (plus slash : Char) (filled : Bool) : Bytes → Bytes
  | a :: b :: c :: rest =>
    let n := (a.toNat * 256 + b.toNat) * 256 + c.toNat
    let d := digit plus slash
    d (n / 262144) :: d (n / 4096 % 64) :: d (n / 64 % 64) :: d (n % 64) ::
      groups plus slash filled rest
  | [a, b] =>
    let n := (a.toNat * 256 + b.toNat) * 4
    let d := digit plus slash
    [d (n / 4096), d (n / 64 % 64), d (n % 64)] ++ if filled then utf8 "=" else []
  | [a] =>
    let n := a.toNat * 16
    let d := digit plus slash
    [d (n / 64), d (n % 64)] ++ if filled then utf8 "==" else []
  | [] => []

/-- The usual digits, filled up. -/
def encode (s : Bytes) : Bytes := groups '+' '/' true s

/-- Digits that need no escape in a URL, left short. -/
def encodeUrl (s : Bytes) : Bytes := groups '-' '_' false s

end DocPull.Base64
