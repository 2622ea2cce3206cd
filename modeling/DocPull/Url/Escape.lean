import DocPull.Text.Quoted

/-!
# Percent escapes

Each part of a URL leaves other characters unescaped. Escaping writes every byte that the part
does not leave alone as a percent sign and two hexadecimal digits; in a query a space is
written as a plus sign. Unescaping accepts any escaped byte, except in a host name, where only
bytes that could not be written directly may be escaped.
-/
namespace DocPull.Url

/-- The parts of a URL with escaping rules of their own. -/
inductive Part where
  | path
  | host
  | zone
  | user
  | query
  | fragment
  deriving DecidableEq, Repr

/-- Why an escaped text is refused. -/
inductive EscapeError where
  /-- A percent sign without two hexadecimal digits, or one that may not stand there. -/
  | escape (found : Bytes)
  /-- A byte that a host name cannot hold. -/
  | hostByte (b : UInt8)
  deriving DecidableEq, Repr

def EscapeError.message : EscapeError → Bytes
  | escape found => text ["invalid URL escape ", Quoted.quote found]
  | hostByte b => text ["invalid character ", Quoted.quote [b], " in host name"]

def isOneOf (chars : String) (b : UInt8) : Bool := (utf8 chars).contains b

/-- Letters, digits and the four marks that no part escapes. -/
def isUnreserved (b : UInt8) : Bool :=
  Bytes.isLetter b || Bytes.isDigit b || isOneOf "-_.~" b

/-- Whether a part leaves a byte as it is. -/
def isPlain (part : Part) (b : UInt8) : Bool :=
  isUnreserved b ||
    match part with
    | .host | .zone => isOneOf "!$&'()*+,;=:[]<>\"" b
    | .path => isOneOf "$&+,/:;=@" b
    | .user => isOneOf "$&+,;=" b
    | .query => false
    | .fragment => isOneOf "$&+,/:;=?@!()*" b

def hexUpper (n : Nat) : UInt8 := Bytes.upper (Bytes.hexDigit n)

def percent (b : UInt8) : Bytes := [byte '%', hexUpper (b.toNat / 16), hexUpper (b.toNat % 16)]

/-- One byte as a part writes it. -/
def escapeByte (part : Part) (b : UInt8) : Bytes :=
  if isPlain part b then [b]
  else if part = .query ∧ b = byte ' ' then [byte '+']
  else percent b

/-- A text as a part writes it. -/
def escape (part : Part) (s : Bytes) : Bytes := s.flatMap (escapeByte part)

/-- Whether an escaped byte may stand in a part. -/
def mayEscape (part : Part) (value : Nat) : Bool :=
  match part with
  | .host => 0x80 ≤ value || value == 0x25
  | .zone => value == 0x25 || value == 0x20 || isPlain .host value.toUInt8
  | _ => true

/-- Whether a byte may stand unescaped in a part. -/
def mayStand (part : Part) (b : UInt8) : Bool :=
  match part with
  | .host | .zone => 0x80 ≤ b || isPlain part b
  | _ => true

/-- One byte of the unescaped text: a plus sign in a query is a space. -/
def standsFor (part : Part) (b : UInt8) : UInt8 :=
  if part = .query ∧ b = byte '+' then byte ' ' else b

/-- The text that an escaped text stands for. -/
def unescape (part : Part) : Bytes → Except EscapeError Bytes
  | [] => .ok []
  | b :: rest =>
    if b = byte '%' then
      match rest with
      | h :: l :: more =>
        match Bytes.hex? h, Bytes.hex? l with
        | some x, some y =>
          if mayEscape part (16 * x + y) then
            (unescape part more).map ((16 * x + y).toUInt8 :: ·)
          else .error (.escape [b, h, l])
        | _, _ => .error (.escape [b, h, l])
      | short => .error (.escape (b :: short))
    else if mayStand part b then (unescape part rest).map (standsFor part b :: ·)
    else .error (.hostByte b)

/-- Whether a written part can be shown again as it was written. -/
def isShowable (part : Part) (written : Bytes) : Bool :=
  written.all fun b => isOneOf "!$&'()*+,;=:@[]%" b || isPlain part b

/-- How a part is shown that stands for a text and was written in some way: as it was written
where that is possible, and freshly escaped where not. -/
def shownAs (part : Part) (meaning written : Bytes) : Bytes :=
  if isShowable part written && (unescape part written).toOption == some meaning then written
  else escape part meaning

end DocPull.Url
