import DocPull.Text.Unit

/-!
# JSON documents

Numbers and strings keep the literal they were written with, so a document is known exactly as
it stood. What a string literal means is computed on demand: lone surrogates and stray bytes
mean the replacement character. Writing a text as a literal escapes quotes, backslashes, control
characters, and the characters that are special in HTML or end a line.
-/
namespace DocPull

/-- A JSON document. The literal of a string is what stands between its quotes. -/
inductive Json where
  | null
  | bool (b : Bool)
  | number (literal : Bytes)
  | string (literal : Bytes)
  | array (items : List Json)
  | object (members : List (Bytes × Json))

namespace Json

/-- The four hexadecimal digits after the marker of a numeric escape. -/
def hexUnit? (us : List TextUnit) : Option Nat :=
  match us with
  | .char '\\' :: .char 'u' :: .char a :: .char b :: .char c :: .char d :: _ => do
    let digit (x : Char) : Option Nat := if x.toNat < 0x80 then Bytes.hex? (byte x) else none
    pure ((((← digit a) * 16 + (← digit b)) * 16 + (← digit c)) * 16 + (← digit d))
  | _ => none

/-- The character that a letter after a backslash stands for. -/
def letterEscape? (c : Char) : Option Char :=
  match c with
  | '"' => some '"'
  | '\\' => some '\\'
  | '/' => some '/'
  | 'b' => some (Char.ofNat 8)
  | 'f' => some (Char.ofNat 12)
  | 'n' => some '\n'
  | 'r' => some '\r'
  | 't' => some '\t'
  | _ => none

/-- Whether a unit is the first or the second half of a surrogate pair. -/
def isHigh (u : Nat) : Bool := 0xD800 ≤ u && u < 0xDC00
def isLow (u : Nat) : Bool := 0xDC00 ≤ u && u < 0xE000

/-- The character at the front of a literal, and how many further units belong to it. -/
def front (u : TextUnit) (rest : List TextUnit) : Char × Nat :=
  match u with
  | .char '\\' =>
    match hexUnit? (u :: rest) with
    | some u =>
      match hexUnit? (rest.drop 5) with
      | some v =>
        if isHigh u && isLow v then
          (Char.ofNat (0x10000 + (u - 0xD800) * 0x400 + (v - 0xDC00)), 11)
        else (if isHigh u || isLow u then '\ufffd' else Char.ofNat u, 5)
      | none => (if isHigh u || isLow u then '\ufffd' else Char.ofNat u, 5)
    | none =>
      match rest with
      | .char c :: _ => ((letterEscape? c).getD c, 1)
      | _ => ('\ufffd', 0)
  | u => (u.shown, 0)

/-- The characters of a literal, after passing over units that belong to the last one. -/
def unquoteFrom : (skip : Nat) → List TextUnit → Bytes
  | _, [] => []
  | skip + 1, _ :: rest => unquoteFrom skip rest
  | 0, u :: rest =>
    let (c, n) := front u rest
    String.utf8EncodeChar c ++ unquoteFrom n rest

/-- The text that a string literal means. -/
def unquote (literal : Bytes) : Bytes := unquoteFrom 0 (TextUnit.read literal)

/-- One unit of text inside a string literal. A stray byte becomes the replacement character. -/
def escapeUnit : TextUnit → Bytes
  | .stray _ => "\ufffd"
  | .char c =>
    match c with
    | '"' => "\\\""
    | '\\' => "\\\\"
    | '\n' => "\\n"
    | '\r' => "\\r"
    | '\t' => "\\t"
    | _ =>
      if c.toNat = 8 then "\\b"
      else if c.toNat = 12 then "\\f"
      else if c.toNat < 0x20 || c == '<' || c == '>' || c == '&' || c == '\u2028' || c == '\u2029'
      then text ["\\u", Bytes.hex 4 c.toNat]
      else String.utf8EncodeChar c

def quote (s : Bytes) : Bytes := (TextUnit.read s).flatMap escapeUnit

def ofText (s : Bytes) : Json := .string (quote s)

def ofInt (n : Int) : Json := .number (Bytes.signed n)

/-- Two spaces for each level. -/
def indent (depth : Nat) : Bytes := 10 :: List.replicate (2 * depth) (byte ' ')

mutual

/-- A document over several lines, every item and member on its own. -/
def printAt (depth : Nat) : Json → Bytes
  | null => "null"
  | bool b => if b then "true" else "false"
  | number literal => literal
  | string literal => text ["\"", literal, "\""]
  | array [] => "[]"
  | array (item :: items) =>
    text ["[", indent (depth + 1), printAt (depth + 1) item, printItems (depth + 1) items,
      indent depth, "]"]
  | object [] => "\x7b\x7d"
  | object ((name, value) :: members) =>
    text ["\x7b", indent (depth + 1), "\"", quote name, "\": ", printAt (depth + 1) value,
      printMembers (depth + 1) members, indent depth, "\x7d"]

/-- Further items, each after a comma and on a new line. -/
def printItems (depth : Nat) : List Json → Bytes
  | [] => []
  | item :: items => text [",", indent depth, printAt depth item, printItems depth items]

/-- Further members, each after a comma and on a new line. -/
def printMembers (depth : Nat) : List (Bytes × Json) → Bytes
  | [] => []
  | (name, value) :: members =>
    text [",", indent depth, "\"", quote name, "\": ", printAt depth value,
      printMembers depth members]

end

def print (j : Json) : Bytes := printAt 0 j

end Json

end DocPull
