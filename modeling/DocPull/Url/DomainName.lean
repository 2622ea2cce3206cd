import DocPull.Text.LowerCase
import DocPull.Text.Normal

/-!
# Domain names

A domain name means the same in upper and in lower case, and a label with characters outside ASCII
means the same as its ASCII form: a marker, the ASCII characters, and the other characters coded
as a sequence of letters and digits. That code goes through the other characters in ascending
order and writes, for each one, how far the pair of character and position has moved since the
last one. Distances are numbers of variable length in base thirty-six whose digits end where a
threshold says, and the thresholds adapt to the distances seen so far.
-/
namespace DocPull.DomainName

/-- A digit of base thirty-six: letters first. -/
def digit (n : Nat) : UInt8 := if n < 26 then (0x61 + n).toUInt8 else (0x30 + n - 26).toUInt8

/-- The threshold of a place; a smaller digit there ends a number. -/
def threshold (place bias : Nat) : Nat :=
  if place ≤ bias then 1 else if bias + 26 ≤ place then 26 else place - bias

theorem one_le_threshold (place bias : Nat) : 1 ≤ threshold place bias := by
  unfold threshold
  split <;> (try split) <;> omega

/-- A distance as a number of variable length, from a place on. -/
def distance (bias place n : Nat) : Bytes :=
  let t := threshold place bias
  if n < t then [digit n]
  else digit (t + (n - t) % (36 - t)) :: distance bias (place + 36) ((n - t) / (36 - t))
termination_by n
decreasing_by
  have h := one_le_threshold place bias
  have h' := Nat.div_le_self (n - threshold place bias) (36 - threshold place bias)
  omega

/-- Divides a distance until it is small; each step makes the bias larger by thirty-six. -/
def shrink (distance bias : Nat) : Nat :=
  if 455 < distance then shrink (distance / 35) (bias + 36)
  else bias + 36 * distance / (distance + 38)
termination_by distance
decreasing_by exact Nat.div_lt_self (by omega) (by omega)

/-- The bias after a distance, when so many characters are coded. -/
def adapt (distance coded : Nat) (first : Bool) : Nat :=
  let d := if first then distance / 700 else distance / 2
  shrink (d + d / coded) 0

/-- A label on its way to ASCII. -/
structure Coding where
  out : Bytes
  /-- The distance since the last coded character. -/
  moved : Nat
  bias : Nat
  /-- How many characters of the label are coded. -/
  coded : Nat

/-- Passes one character of the label while a given character is coded. -/
def pass (plain current : Nat) (st : Coding) (c : Nat) : Coding :=
  if c < current then { st with moved := st.moved + 1 }
  else if c = current then
    ⟨st.out ++ distance st.bias 36 st.moved, 0,
      adapt st.moved (st.coded + 1) (st.coded = plain), st.coded + 1⟩
  else st

/-- Codes the given characters, in ascending order, wherever they stand in the label. -/
def codeAll (label : List Nat) (plain : Nat) : (next : Nat) → List Nat → Coding → Coding
  | _, [], st => st
  | next, c :: cs, st =>
    let st := { st with moved := st.moved + (c - next) * (st.coded + 1) }
    let st := label.foldl (pass plain c) st
    codeAll label plain (c + 1) cs { st with moved := st.moved + 1 }

/-- Puts a number into an ascending list without repetitions. -/
def insertNew (n : Nat) : List Nat → List Nat
  | [] => [n]
  | m :: ms => if n < m then n :: m :: ms else if n = m then m :: ms else m :: insertNew n ms

def asciiLabel (label : List Nat) : Bytes :=
  let plain := label.filter (· < 0x80)
  let others := (label.filter (0x80 ≤ ·)).foldr insertNew []
  if others = [] then plain.map Nat.toUInt8
  else
    let coding := codeAll label plain.length 0x80 others ⟨[], 0, 72, plain.length⟩
    text ["xn--", plain.map Nat.toUInt8, if plain = [] then [] else utf8 "-", coding.out]

/-- A character as it counts in a domain name: without case, of normal width, and every kind of
full stop alike. -/
def plainChar (c : Char) : Char :=
  if c = '\u3002' ∨ c = '\uff61' then '.'
  else if 0xFF01 ≤ c.toNat ∧ c.toNat ≤ 0xFF5E then (Char.ofNat (c.toNat - 0xFEE0)).toLower
  else LowerCase.ofChar c

/-- The ASCII form of a domain name, in lower case. -/
def ascii (name : Bytes) : Bytes :=
  let plain := (TextUnit.read name).flatMap fun u => String.utf8EncodeChar (plainChar u.shown)
  let composed := (TextUnit.read (Normal.compositeForm plain)).map (·.shown)
  let labels := (composed.splitOn '.').map fun label => asciiLabel (label.map Char.toNat)
  Bytes.join "." labels

end DocPull.DomainName
