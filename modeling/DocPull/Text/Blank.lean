import DocPull.Text.Unit

/-!
# White space

The characters with the White_Space property, and what is left of a text without them at its
ends. A stray byte is never white space.
-/
namespace DocPull.Blank

/-- The code points of white space, as inclusive ranges. -/
def ranges : List (Nat × Nat) :=
  [(0x09, 0x0D), (0x20, 0x20), (0x85, 0x85), (0xA0, 0xA0), (0x1680, 0x1680), (0x2000, 0x200A),
    (0x2028, 0x2029), (0x202F, 0x202F), (0x205F, 0x205F), (0x3000, 0x3000)]

def isBlankChar (c : Char) : Bool := ranges.any fun (lo, hi) => lo ≤ c.toNat && c.toNat ≤ hi

def isBlank : TextUnit → Bool
  | .char c => isBlankChar c
  | .stray _ => false

/-- The text without white space at its ends. -/
def trim (s : Bytes) : Bytes :=
  TextUnit.write ((((TextUnit.read s).dropWhile isBlank).reverse.dropWhile isBlank).reverse)

def trimStart (s : Bytes) : Bytes := TextUnit.write ((TextUnit.read s).dropWhile isBlank)

/-- The longest pieces without white space, in order. -/
def fields (s : Bytes) : List Bytes :=
  (go [] (TextUnit.read s)).filterMap fun us =>
    if us.isEmpty then none else some (TextUnit.write us)
where
  /-- The pieces between white space, some of them empty, after the piece read so far. -/
  go (piece : List TextUnit) : List TextUnit → List (List TextUnit)
    | [] => [piece.reverse]
    | u :: rest => if isBlank u then piece.reverse :: go [] rest else go (u :: piece) rest

end DocPull.Blank
