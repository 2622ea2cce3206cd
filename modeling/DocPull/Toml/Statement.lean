import DocPull.Toml.Literal

/-!
# The statements of a TOML document

A document is a sequence of table headers and assignments. Reading a value takes at least one
byte, so the length of the text bounds the recursion.
-/
namespace DocPull.Toml

abbrev Key := List Bytes

/-- A written value. Of a number, a date or a truth value only its kind is kept. -/
inductive Literal where
  | string (s : Bytes)
  | other
  | array (items : List Literal)
  | inlineTable (members : List (Key × Literal))

inductive Statement where
  | table (key : Key)
  | tableArray (key : Key)
  | assign (key : Key) (value : Literal)

/-- Whether a byte can stand in a key without quotes. -/
def isKeyByte (b : UInt8) : Bool :=
  Bytes.isLetter b || Bytes.isDigit b || b == byte '_' || b == byte '-'

def skipBlanks (s : Bytes) : Bytes := s.dropWhile fun b => b == 0x20 || b == 9

def skipLine (s : Bytes) : Bytes := s.dropWhile (· != 10)

/-- Passes over blanks, line ends and comments. A comment ends at its line end. -/
def skipLines : (comment : Bool) → Bytes → Bytes
  | _, [] => []
  | comment, b :: rest =>
    if comment then skipLines (b != 10) rest
    else if isBlank b then skipLines false rest
    else if b = byte '#' then skipLines true rest
    else b :: rest

def keyPart? (s : Bytes) : Option (Bytes × Bytes) :=
  match s with
  | [] => none
  | b :: _ =>
    if b = byte '"' ∨ b = byte '\'' then string? false s
    else
      let bare := s.takeWhile isKeyByte
      if bare.isEmpty then none else some (bare, s.drop bare.length)

/-- A key up to the byte after it that is neither blank nor a dot. Each part takes a byte or
more, so the length of the text bounds their number. -/
def key? : (fuel : Nat) → Bytes → Option (Key × Bytes)
  | 0, _ => none
  | fuel + 1, s => do
    let (part, rest) ← keyPart? (skipBlanks s)
    match skipBlanks rest with
    | [] => pure ([part], [])
    | b :: more =>
      if b = byte '.' then
        let (parts, r) ← key? fuel more
        pure (part :: parts, r)
      else pure ([part], b :: more)

def assignedKey? (fuel : Nat) (s : Bytes) : Option (Key × Bytes) := do
  let (key, rest) ← key? fuel s
  let rest ← Bytes.after? "=" rest
  pure (key, skipBlanks rest)

mutual

/-- The value at the front of a text. -/
def literal? : (fuel : Nat) → Bytes → Option (Literal × Bytes)
  | 0, _ => none
  | _, [] => none
  | fuel + 1, b :: rest =>
    if b = byte '"' ∨ b = byte '\'' then
      (string? true (b :: rest)).map fun (s, r) => (.string s, r)
    else if b = byte '[' then
      (items? fuel (skipLines false rest)).map fun (items, r) => (.array items, r)
    else if b = byte '\x7b' then
      (members? fuel (skipLines false rest)).map fun (ms, r) => (.inlineTable ms, r)
    else (word? (b :: rest)).map (.other, ·)

/-- The items of an array up to its closing bracket; the last one may have a comma after it. -/
def items? : (fuel : Nat) → Bytes → Option (List Literal × Bytes)
  | 0, _ => none
  | fuel + 1, s =>
    match Bytes.after? "]" s with
    | some rest => some ([], rest)
    | none => do
      let (item, rest) ← literal? fuel s
      let rest := skipLines false rest
      match Bytes.after? "," rest with
      | some more =>
        let (items, r) ← items? fuel (skipLines false more)
        pure (item :: items, r)
      | none => do
        let r ← Bytes.after? "]" rest
        pure ([item], r)

/-- The members of an inline table up to its closing brace; the last one may have a comma after
it. -/
def members? : (fuel : Nat) → Bytes → Option (List (Key × Literal) × Bytes)
  | 0, _ => none
  | fuel + 1, s =>
    match Bytes.after? [byte '\x7d'] s with
    | some rest => some ([], rest)
    | none => do
      let (key, rest) ← assignedKey? fuel s
      let (value, rest) ← literal? fuel rest
      let rest := skipLines false rest
      match Bytes.after? "," rest with
      | some more =>
        let (ms, r) ← members? fuel (skipLines false more)
        pure ((key, value) :: ms, r)
      | none => do
        let r ← Bytes.after? [byte '\x7d'] rest
        pure ([(key, value)], r)

end

/-- What follows a statement: nothing more on its line but a comment. -/
def endLine? (s : Bytes) : Option Bytes :=
  match skipBlanks s with
  | [] => some []
  | b :: rest =>
    if b = 10 ∨ b = 13 then some rest else if b = byte '#' then some (skipLine rest) else none

/-- The statement at the front of a text, and the text after its line. -/
def statement? (fuel : Nat) (s : Bytes) : Option (Statement × Bytes) :=
  match Bytes.after? "[[" s with
  | some rest => do
    let (key, rest) ← key? fuel rest
    let rest ← Bytes.after? "]]" rest
    pure (.tableArray key, ← endLine? rest)
  | none =>
    match Bytes.after? "[" s with
    | some rest => do
      let (key, rest) ← key? fuel rest
      let rest ← Bytes.after? "]" rest
      pure (.table key, ← endLine? rest)
    | none => do
      let (key, rest) ← assignedKey? fuel s
      let (value, rest) ← literal? fuel rest
      pure (.assign key value, ← endLine? rest)

/-- All statements, given a bound on the depth of each. A statement takes a byte or more, so the
length of the text bounds their number. -/
def statements? (depth : Nat) : (fuel : Nat) → Bytes → Option (List Statement)
  | 0, _ => none
  | fuel + 1, s =>
    match skipLines false s with
    | [] => some []
    | b :: rest => do
      let (st, rest) ← statement? depth (b :: rest)
      let sts ← statements? depth fuel rest
      pure (st :: sts)

/-- A byte order mark at the front is no part of the text. -/
def dropMark (s : Bytes) : Bytes :=
  match Bytes.after? [0xFF, 0xFE] s, Bytes.after? [0xFE, 0xFF] s, Bytes.after? [0xEF, 0xBB, 0xBF] s
  with
  | some r, _, _ => r
  | _, some r, _ => r
  | _, _, some r => r
  | _, _, _ => s

/-- Whether no control character stands in a text but tabs and line ends. -/
def isPrintable : Bytes → Bool
  | [] => true
  | b :: rest =>
    (if b = 13 then rest.head? == some 10 else b == 9 || b == 10 || (0x20 ≤ b && b != 0x7F)) &&
      isPrintable rest

def read? (s : Bytes) : Option (List Statement) :=
  let s := dropMark s
  let size := s.length + 1
  if TextUnit.valid s && isPrintable s then statements? (2 * size) size s else none

end DocPull.Toml
