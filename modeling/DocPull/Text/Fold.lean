import DocPull.Text.LowerCase
import DocPull.Text.Unit

/-!
# Comparison that ignores case

Names of fields and file extensions are ASCII and are compared under simple case folding. Two
characters outside ASCII fold to an ASCII letter: the long s and the Kelvin sign. All others are
equal only to themselves here, which is enough when one side is ASCII.
-/
namespace DocPull.Fold

/-- The representative of a unit under folding to lower-case ASCII. -/
def fold : TextUnit → TextUnit
  | .char c =>
    if 'A' ≤ c ∧ c ≤ 'Z' then .char (Char.ofNat (c.toNat + 32))
    else if c = '\u017f' then .char 's'
    else if c = '\u212a' then .char 'k'
    else .char c
  | .stray b => .stray b

/-- Whether a text equals an ASCII text up to case. -/
def same (s ascii : Bytes) : Bool := (TextUnit.read s).map fold == (TextUnit.read ascii).map fold

/-- The text in lower case; stray bytes are shown as the replacement character. -/
def lower (s : Bytes) : Bytes :=
  (TextUnit.read s).flatMap fun u => String.utf8EncodeChar (LowerCase.ofChar u.shown)

/-- The upper case of a unit, as far as ASCII letters can result. -/
def upperOf : TextUnit → Bytes
  | .char c =>
    if 'a' ≤ c ∧ c ≤ 'z' then String.utf8EncodeChar (Char.ofNat (c.toNat - 32))
    else if c = '\u0131' then String.utf8EncodeChar 'I'
    else if c = '\u017f' then String.utf8EncodeChar 'S'
    else String.utf8EncodeChar c
  | .stray _ => String.utf8EncodeChar '\ufffd'

/-- The text in upper case, as far as ASCII letters can result. -/
def upper (s : Bytes) : Bytes := (TextUnit.read s).flatMap upperOf

end DocPull.Fold
