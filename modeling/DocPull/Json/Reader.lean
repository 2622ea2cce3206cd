import DocPull.Json.Basic

/-!
# Reading JSON documents

The reader accepts exactly one document with white space around it. Every step that reads a
document consumes at least one byte, so the length of the text bounds the recursion; nesting is
limited besides.
-/
namespace DocPull.Json

/-- Whether a byte is white space between tokens. -/
def isSpace (b : UInt8) : Bool := b == 0x20 || b == 9 || b == 10 || b == 13

def skipSpace (s : Bytes) : Bytes := s.dropWhile isSpace

/-- A string literal up to its closing quote, and what follows the quote. -/
def literal? : Bytes → Option (Bytes × Bytes)
  | [] => none
  | b :: rest =>
    if b = byte '"' then some ([], rest)
    else if b < 0x20 then none
    else if b = byte '\\' then
      match rest with
      | e :: more =>
        if e = byte 'u' then
          match more with
          | h1 :: h2 :: h3 :: h4 :: tail =>
            if [h1, h2, h3, h4].all fun h => (Bytes.hex? h).isSome then
              (literal? tail).map fun (l, r) => (b :: e :: h1 :: h2 :: h3 :: h4 :: l, r)
            else none
          | _ => none
        else if (utf8 "\"\\/bfnrt").contains e then
          (literal? more).map fun (l, r) => (b :: e :: l, r)
        else none
      | [] => none
    else (literal? rest).map fun (l, r) => (b :: l, r)

/-- Digits at the front of a text; at least one. -/
def digits? (s : Bytes) : Option (Bytes × Bytes) :=
  let ds := s.takeWhile Bytes.isDigit
  if ds.isEmpty then none else some (ds, s.drop ds.length)

/-- The integer digits of a number: a zero alone, or digits that begin with no zero. -/
def wholePart? : Bytes → Option (Bytes × Bytes)
  | [] => none
  | b :: rest => if b = byte '0' then some ([b], rest) else digits? (b :: rest)

/-- The point and the digits after it, when there is a point. -/
def fractionPart? : Bytes → Option (Bytes × Bytes)
  | [] => some ([], [])
  | b :: rest =>
    if b = byte '.' then (digits? rest).map fun (ds, r) => (b :: ds, r) else some ([], b :: rest)

/-- The exponent with its letter, when there is one. -/
def exponentPart? : Bytes → Option (Bytes × Bytes)
  | [] => some ([], [])
  | b :: rest =>
    if Bytes.lower b = byte 'e' then
      match rest with
      | s :: more =>
        if s = byte '+' ∨ s = byte '-' then
          (digits? more).map fun (ds, r) => (b :: s :: ds, r)
        else (digits? rest).map fun (ds, r) => (b :: ds, r)
      | [] => none
    else some ([], b :: rest)

/-- A number literal, and what follows it. -/
def number? (s : Bytes) : Option (Bytes × Bytes) := do
  let (sign, s) := match s with
    | b :: rest => if b = byte '-' then ([b], rest) else ([], s)
    | [] => ([], s)
  let (whole, s) ← wholePart? s
  let (fraction, s) ← fractionPart? s
  let (exponent, s) ← exponentPart? s
  pure (text [sign, whole, fraction, exponent], s)

/-- How deeply documents may nest. -/
def maxDepth : Nat := 10000

mutual

/-- The document at the front of a text without leading white space, and what follows it. -/
def value? : (fuel depth : Nat) → Bytes → Option (Json × Bytes)
  | 0, _, _ => none
  | _, _, [] => none
  | fuel + 1, depth, b :: rest =>
    if b = byte '"' then (literal? rest).map fun (l, r) => (.string l, r)
    -- Arrays and objects count alike for the depth.
    else if b = byte '[' then
      if maxDepth ≤ depth then none
      else
        match skipSpace rest with
        | [] => none
        | c :: more =>
          if c = byte ']' then some (.array [], more)
          else (items? fuel (depth + 1) (c :: more)).map fun (items, r) => (.array items, r)
    else if b = byte '\x7b' then
      if maxDepth ≤ depth then none
      else
        match skipSpace rest with
        | [] => none
        | c :: more =>
          if c = byte '\x7d' then some (.object [], more)
          else (members? fuel (depth + 1) (c :: more)).map fun (ms, r) => (.object ms, r)
    else if b = byte '-' ∨ Bytes.isDigit b then
      (number? (b :: rest)).map fun (l, r) => (.number l, r)
    else
      match Bytes.after? "null" (b :: rest), Bytes.after? "true" (b :: rest),
          Bytes.after? "false" (b :: rest) with
      | some r, _, _ => some (.null, r)
      | _, some r, _ => some (.bool true, r)
      | _, _, some r => some (.bool false, r)
      | _, _, _ => none

/-- The items of an array up to its closing bracket. -/
def items? : (fuel depth : Nat) → Bytes → Option (List Json × Bytes)
  | 0, _, _ => none
  | fuel + 1, depth, s => do
    let (item, rest) ← value? fuel depth s
    match skipSpace rest with
    | [] => none
    | c :: more =>
      if c = byte ']' then pure ([item], more)
      else if c = byte ',' then
        let (items, r) ← items? fuel depth (skipSpace more)
        pure (item :: items, r)
      else none

/-- The members of an object up to its closing brace. -/
def members? : (fuel depth : Nat) → Bytes → Option (List (Bytes × Json) × Bytes)
  | 0, _, _ => none
  | _, _, [] => none
  | fuel + 1, depth, q :: rest =>
    if q ≠ byte '"' then none
    else do
      let (name, rest) ← literal? rest
      match skipSpace rest with
      | [] => none
      | colon :: rest =>
        if colon ≠ byte ':' then none
        else do
          let (value, rest) ← value? fuel depth (skipSpace rest)
          match skipSpace rest with
          | [] => none
          | c :: more =>
            if c = byte '\x7d' then pure ([(unquote name, value)], more)
            else if c = byte ',' then
              let (ms, r) ← members? fuel depth (skipSpace more)
              pure ((unquote name, value) :: ms, r)
            else none

end

def parse? (s : Bytes) : Option Json :=
  match value? (2 * s.length + 1) 0 (skipSpace s) with
  | some (j, rest) => if skipSpace rest = [] then some j else none
  | none => none

end DocPull.Json
