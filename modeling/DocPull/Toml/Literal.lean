import DocPull.Instant
import DocPull.Number.Numeral

/-!
# TOML values that are one word

Strings are read in two steps: first where they end, then what their escapes mean. Numbers, dates
and truth values are only checked, because no setting holds one; a check that fails makes the
whole document unreadable.
-/
namespace DocPull.Toml

/-- What an escape after its backslash stands for, and how many bytes it takes. -/
def escape? : Bytes → Option (Bytes × Nat)
  | [] => none
  | e :: rest =>
    let one (b : UInt8) : Option (Bytes × Nat) := some ([b], 1)
    let scalar (width : Nat) : Option (Bytes × Nat) := do
      guard (width ≤ rest.length)
      let digits ← (rest.take width).mapM Bytes.hex?
      let c ← TextUnit.scalar? 0 (digits.foldl (fun n d => 16 * n + d) 0)
      pure (String.utf8EncodeChar c, width + 1)
    if e = byte 'b' then one 8
    else if e = byte 't' then one 9
    else if e = byte 'n' then one 10
    else if e = byte 'f' then one 12
    else if e = byte 'r' then one 13
    else if e = byte 'e' then one 27
    else if e = byte '"' ∨ e = byte '\\' then one e
    else if e = byte 'x' then scalar 2
    else if e = byte 'u' then scalar 4
    else if e = byte 'U' then scalar 8
    else none

/-- The meaning of a string with escapes, after passing over bytes of the last escape. -/
def unescape : (skip : Nat) → Bytes → Option Bytes
  | _, [] => some []
  | skip + 1, _ :: rest => unescape skip rest
  | 0, b :: rest =>
    if b = byte '\\' then do
      let (meaning, n) ← escape? rest
      let more ← unescape n rest
      pure (meaning ++ more)
    else (unescape 0 rest).map (b :: ·)

/-- A string of one line up to its closing quote, still escaped, and what follows. -/
def lineString (quote : UInt8) (escapes : Bool) : Bytes → Option (Bytes × Bytes)
  | [] => none
  | b :: rest =>
    if b = quote then some ([], rest)
    else if b = 10 ∨ b = 13 then none
    else if escapes && b = byte '\\' then
      match rest with
      | e :: more =>
        if e = 10 ∨ e = 13 then none
        else (lineString quote escapes more).map fun (s, r) => (b :: e :: s, r)
      | [] => none
    else (lineString quote escapes rest).map fun (s, r) => (b :: s, r)

/-- A string of several lines up to its three closing quotes. Quotes are counted as they come:
the last three of a run close the string, and at most two more may stand before them, or three
after an escaped backslash. The bytes read so far are held with the last one first. -/
def longString (quote : UInt8) (escapes : Bool) :
    (run : Nat) → (afterBackslash : Bool) → (done : Bytes) → Bytes → Option (Bytes × Bytes)
  | run, after, done, [] => close run after done []
  | run, after, done, b :: rest =>
    if b = quote then longString quote escapes (run + 1) after (b :: done) rest
    else if 3 ≤ run then close run after done (b :: rest)
    else if escapes && b = byte '\\' then
      match rest with
      | e :: more => longString quote escapes 0 (e = byte '\\') (e :: b :: done) more
      | [] => none
    else longString quote escapes 0 false (b :: done) rest
where
  /-- Ends the string, when its quotes allow that. -/
  close (run : Nat) (after : Bool) (done rest : Bytes) : Option (Bytes × Bytes) :=
    if 3 ≤ run ∧ run ≤ (if after then 6 else 5) then some ((done.drop 3).reverse, rest) else none

/-- A line end directly after the opening quotes is no part of the string. -/
def dropFirstLineEnd : Bytes → Bytes
  | [] => []
  | b :: rest =>
    if b = 10 then rest
    else if b = 13 ∧ rest.head? = some 10 then rest.tail
    else b :: rest

/-- Whether a byte is a space, a tab or part of a line end. -/
def isBlank (b : UInt8) : Bool := b == 0x20 || b == 9 || b == 10 || b == 13

/-- Removes each backslash that ends a line, with all blanks after it. -/
def joinLines : (skip : Nat) → (kept : Bool) → Bytes → Bytes
  | _, _, [] => []
  | skip + 1, kept, b :: rest =>
    if kept then b :: joinLines skip kept rest else joinLines skip kept rest
  | 0, _, b :: rest =>
    if b = byte '\\' then
      let blanks := rest.takeWhile isBlank
      if blanks.contains 10 then joinLines blanks.length false rest
      else if rest.head? = some (byte '\\') then b :: joinLines 1 true rest
      else b :: joinLines 0 true rest
    else b :: joinLines 0 true rest

/-- A string at the front of a text that begins with a quote. -/
def string? (multiline : Bool) : Bytes → Option (Bytes × Bytes)
  | [] => none
  | q :: rest =>
    let escapes := q = byte '"'
    let long? := if multiline then Bytes.after? [q, q] rest else none
    match long? with
    | some body => do
      let (s, after) ← longString q escapes 0 false [] body
      let s := dropFirstLineEnd s
      if escapes then pure (← unescape 0 (joinLines 0 true s), after) else pure (s, after)
    | none => do
      let (s, after) ← lineString q escapes rest
      if escapes then pure (← unescape 0 s, after) else pure (s, after)

/-- Whether every underscore of a numeral stands between digits of some base, and the numeral ends
in such a digit. -/
def underscoresFit (s : Bytes) : Bool := go false s
where
  /-- Reads on, given whether the last byte was a digit. -/
  go (digit : Bool) : Bytes → Bool
    | [] => digit
    | b :: rest => (b != byte '_' || digit) && go (Bytes.hex? b).isSome rest

/-- Whether a numeral has a zero that should not be there. -/
def hasLeadingZero (s : Bytes) : Bool :=
  match s with
  | a :: b :: rest =>
    (a == byte '0' && !(b == byte 'b' || b == byte 'o' || b == byte 'x')) ||
      ((a == byte '-' || a == byte '+') && b == byte '0' && !rest.isEmpty)
  | _ => false

/-- Whether a word is an integer of 64 bits. Only lower-case base markers without a sign before
them are known, and a digit follows the marker. -/
def isInteger (s : Bytes) : Bool :=
  let badMarker := match s with
    | _ :: m :: rest =>
      (utf8 "BOX").contains m || ((utf8 "box").contains m && rest.head? == some (byte '_'))
    | _ => false
  !badMarker && underscoresFit s && !hasLeadingZero s && (Numeral.anyBase s).toOption.isSome

/-- The pieces of a floating-point numeral between its point and its exponent letter. -/
def floatPieces (s : Bytes) : List Bytes :=
  let marks := s.map fun b => if b = byte '.' ∨ Bytes.lower b = byte 'e' then byte ' ' else b
  (Bytes.split (byte ' ') marks).filter fun piece => !piece.isEmpty

/-- Whether a digit follows every point. -/
def pointsFit : Bytes → Bool
  | [] => true
  | b :: rest => (b != byte '.' || rest.head?.any Bytes.isDigit) && pointsFit rest

def isFloat (s : Bytes) : Bool :=
  let pieces := floatPieces s
  pieces.all underscoresFit && !(pieces.head?.any hasLeadingZero) && pointsFit s &&
    (Numeral.binary64 (s.filter (· != byte '_'))).toOption.isSome

/-- A time of day with two digits in each field; the seconds may be missing. Gives the rest. -/
def clock? (s : Bytes) : Option Bytes := do
  let (hour, s) ← Instant.fixed? 2 0 s
  let s ← Instant.expect? (byte ':') s
  let (minute, s) ← Instant.fixed? 2 0 s
  guard (hour < 24 && minute < 60)
  match Instant.expect? (byte ':') s with
  | none => pure s
  | some s => do
    let (second, s) ← Instant.fixed? 2 0 s
    guard (second < 60)
    pure (Instant.fraction s).2

/-- A date. Gives the rest. -/
def date? (s : Bytes) : Option Bytes := do
  let (year, s) ← Instant.fixed? 4 0 s
  let s ← Instant.expect? (byte '-') s
  let (month, s) ← Instant.fixed? 2 0 s
  let s ← Instant.expect? (byte '-') s
  let (day, s) ← Instant.fixed? 2 0 s
  guard (1 ≤ month && month ≤ 12 && 1 ≤ day && day ≤ Instant.daysIn year month)
  pure s

/-- Whether a text is a date, a time of day, or both with an optional offset. A space or a letter
of either case may stand between them. -/
def isDatetime (s : Bytes) : Bool :=
  let s := s.map fun b =>
    if b = byte 'z' then byte 'Z' else if b = byte 't' ∨ b = byte ' ' then byte 'T' else b
  match date? s with
  | some [] => true
  | some (b :: rest) =>
    b == byte 'T' &&
      match clock? rest with
      | some [] => true
      | some zone => (Instant.offset? zone).isSome
      | none => false
  | none => clock? s == some []

def isDatetimeByte (b : UInt8) : Bool := Bytes.isDigit b || (utf8 "-:Tt .Zz+").contains b

def isNumberByte (b : UInt8) : Bool :=
  Bytes.isDigit b || Bytes.isLetter b || (utf8 "_.+-").contains b

def isNumber (s : Bytes) : Bool :=
  let unsigned := (Numeral.sign s).2
  if unsigned = utf8 "inf" ∨ unsigned = utf8 "nan" then true
  else if unsigned.head?.any Bytes.isDigit then
    if Bytes.startsWith s "0x" then isInteger s
    else if s.any fun b => b == byte '.' || Bytes.lower b == byte 'e' then isFloat s
    else isInteger s
  else false

/-- Passes over a number, a date or a truth value. -/
def word? (s : Bytes) : Option Bytes :=
  let digits := s.takeWhile Bytes.isDigit
  let mark := (s.drop digits.length).head?
  if digits ≠ [] ∧ (mark = some (byte '-') ∨ mark = some (byte ':')) then
    let word := s.takeWhile isDatetimeByte
    if isDatetime (Bytes.trimEnd (byte ' ') word) then some (s.drop word.length) else none
  else
    let word := s.takeWhile isNumberByte
    if word = utf8 "true" ∨ word = utf8 "false" ∨ isNumber word then some (s.drop word.length)
    else none

end DocPull.Toml
