import DocPull.Text.Printable

/-!
# Quoted text

Messages show foreign text between double quotes. Quotes and backslashes are escaped, printable
characters stand for themselves, and everything else is written as an escape from which the
bytes can be told.
-/
namespace DocPull.Quoted

/-- The escape of a control character that has a letter of its own. -/
def letter? (c : Char) : Option Char :=
  match c.toNat with
  | 7 => some 'a'
  | 8 => some 'b'
  | 9 => some 't'
  | 10 => some 'n'
  | 11 => some 'v'
  | 12 => some 'f'
  | 13 => some 'r'
  | _ => none

/-- A unit of text inside quotes of the given kind. -/
def escape (quote : Char) : TextUnit → Bytes
  | .stray b => text ["\\x", Bytes.hex 2 b.toNat]
  | .char c =>
    if c = quote ∨ c = '\\' then [byte '\\', byte c]
    else if Printable.isPrintable c then String.utf8EncodeChar c
    else
      match letter? c with
      | some l => [byte '\\', byte l]
      | none =>
        if c.toNat < 0x20 ∨ c.toNat = 0x7F then text ["\\x", Bytes.hex 2 c.toNat]
        else if c.toNat < 0x10000 then text ["\\u", Bytes.hex 4 c.toNat]
        else text ["\\U", Bytes.hex 8 c.toNat]

/-- A text between double quotes. -/
def quote (s : Bytes) : Bytes :=
  byte '"' :: (TextUnit.read s).flatMap (escape '"') ++ [byte '"']

/-- A character between single quotes. -/
def quoteChar (c : Char) : Bytes := byte '\'' :: escape '\'' (.char c) ++ [byte '\'']

end DocPull.Quoted
