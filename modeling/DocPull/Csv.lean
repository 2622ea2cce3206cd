import DocPull.Bytes

/-!
# Comma-separated values

A field between quotes may hold any byte, a quote inside it being written twice. What else is let
through is a matter of rules. Read lazily, a quote that opens no field stands for itself, and a
quoted field that is never closed runs to the end of the text. Records may be asked to have one
length, and empty lines are no records.
-/
namespace DocPull.Csv

inductive Fault where
  /-- A quote inside a field that does not begin with one. -/
  | bareQuote
  /-- A quote inside a quoted field that is not written twice, or a quoted field without an end. -/
  | strayQuote
  | fieldCount
  deriving DecidableEq, Repr

def Fault.message : Fault → Bytes
  | bareQuote => "bare \" in non-quoted-field"
  | strayQuote => "extraneous or missing \" in quoted-field"
  | fieldCount => "wrong number of fields"

/-- A refused text: the line that the refused record begins on, and the line and column of the
fault. All are counted from one. -/
structure Error where
  fault : Fault
  recordLine : Nat
  line : Nat
  column : Nat
  deriving DecidableEq, Repr

def Error.message (e : Error) : Bytes :=
  let record := text ["record on line ", Bytes.decimal e.recordLine]
  let place := text
    ["parse error on line ", Bytes.decimal e.line, ", column ", Bytes.decimal e.column, ": ",
      e.fault.message]
  if e.fault = .fieldCount then text [record, ": ", e.fault.message]
  else if e.recordLine = e.line then place
  else text [record, "; ", place]

/-- How many fields the records have. -/
inductive Width where
  | any
  /-- As many as the first record has. -/
  | asFirst
  | exactly (n : Nat)
  deriving DecidableEq, Repr

/-- Whether a record may follow others, of which the last one stands first. -/
def Width.admits (width : Width) (before : List (List Bytes)) (record : List Bytes) : Bool :=
  match width with
  | any => true
  | asFirst => before.getLast?.all fun first => first.length == record.length
  | exactly n => record.length == n

structure Rules where
  /-- Whether a quote may stand for itself. -/
  lazyQuotes : Bool
  width : Width
  deriving DecidableEq, Repr

/-- Line ends in one form: a carriage return directly before a line feed is dropped, and so is
one at the very end. -/
def normalizeLines (s : Bytes) : Bytes := go [] s
where
  /-- The normalized text so far, with the last byte first. -/
  go (done : Bytes) : Bytes → Bytes
    | [] => done.reverse
    | [b] => if b = 13 then done.reverse else (b :: done).reverse
    | b :: c :: rest => if b = 13 ∧ c = 10 then go done (c :: rest) else go (b :: done) (c :: rest)

/-- Where the reader stands. -/
inductive Place where
  /-- At the start of a line, outside any record. -/
  | line
  /-- At the start of a field. -/
  | field
  /-- Inside a field without quotes around it. -/
  | plain
  /-- Inside quotes. -/
  | quoted
  /-- After a quote that may close the field. -/
  | closing
  deriving DecidableEq, Repr

/-- What has been read: whole records, the fields of the open record, and the bytes of the open
field, each with the last one first, and how many bytes stand before the open record. -/
structure Reader where
  place : Place
  records : List (List Bytes)
  fields : List Bytes
  bytes : Bytes
  opened : Nat

/-- The line of the byte that so many others stand before. -/
def lineOf (s : Bytes) (before : Nat) : Nat := (s.take before).count 10 + 1

/-- The column of the byte that so many others stand before. -/
def columnOf (s : Bytes) (before : Nat) : Nat :=
  ((s.take before).reverse.takeWhile (· != 10)).length + 1

namespace Reader

def start : Reader := ⟨.line, [], [], [], 0⟩

/-- A fault in the open record, at the byte that so many others stand before. -/
def refuse (r : Reader) (fault : Fault) (s : Bytes) (before : Nat) : Error :=
  ⟨fault, lineOf s r.opened, lineOf s before, columnOf s before⟩

def endField (r : Reader) : Reader :=
  { r with place := .field, fields := r.bytes.reverse :: r.fields, bytes := [] }

def endRecord (rules : Rules) (s : Bytes) (r : Reader) : Except Error Reader :=
  let record := (r.bytes.reverse :: r.fields).reverse
  if rules.width.admits r.records record then
    .ok { r with place := .line, records := record :: r.records, fields := [], bytes := [] }
  else .error (r.refuse .fieldCount s r.opened)

def add (r : Reader) (place : Place) (b : UInt8) : Reader :=
  { r with place := place, bytes := b :: r.bytes }

/-- A byte outside quotes. -/
def unquoted (rules : Rules) (s : Bytes) (before : Nat) (r : Reader) (b : UInt8) :
    Except Error Reader :=
  if b = byte ',' then .ok r.endField
  -- A carriage return before it is gone by now.
  else if b = 10 then r.endRecord rules s
  else if b = byte '"' ∧ !rules.lazyQuotes then .error (r.refuse .bareQuote s before)
  else .ok (r.add .plain b)

/-- The first byte of a field. -/
def first (rules : Rules) (s : Bytes) (before : Nat) (r : Reader) (b : UInt8) :
    Except Error Reader :=
  if b = byte '"' then .ok { r with place := .quoted } else r.unquoted rules s before b

/-- Reads one byte of a text, before which so many others stand. -/
def step (rules : Rules) (s : Bytes) (before : Nat) (r : Reader) (b : UInt8) :
    Except Error Reader :=
  match r.place with
  | .line => if b = 10 then .ok r else { r with opened := before }.first rules s before b
  | .field => r.first rules s before b
  | .plain => r.unquoted rules s before b
  | .quoted => .ok (if b = byte '"' then { r with place := .closing } else r.add .quoted b)
  | .closing =>
    if b = byte '"' then .ok (r.add .quoted b)
    else if b = byte ',' then .ok r.endField
    else if b = 10 then r.endRecord rules s
    -- The quote was meant: it and what follows belong to the field, which is still open.
    else if rules.lazyQuotes then .ok ((r.add .quoted (byte '"')).add .quoted b)
    else .error (r.refuse .strayQuote s (before - 1))

/-- Reads the rest of a text, before which so many bytes stand. -/
def readFrom (rules : Rules) (s : Bytes) : (before : Nat) → Reader → Bytes → Except Error Reader
  | _, r, [] => .ok r
  | before, r, b :: rest =>
    match r.step rules s before b with
    | .error e => .error e
    | .ok r => readFrom rules s (before + 1) r rest

/-- The records once the text has ended. A field without an end is missed behind the last byte. -/
def finish (rules : Rules) (s : Bytes) (r : Reader) : Except Error (List (List Bytes)) :=
  if r.place = .line then .ok r.records.reverse
  else if r.place = .quoted ∧ !rules.lazyQuotes then
    let e := r.refuse .strayQuote s (s.length - 1)
    .error { e with column := e.column + 1 }
  else (r.endRecord rules s).map fun r => r.records.reverse

end Reader

def parse (rules : Rules) (s : Bytes) : Except Error (List (List Bytes)) :=
  let s := normalizeLines s
  match Reader.start.readFrom rules s 0 s with
  | .error e => .error e
  | .ok r => r.finish rules s

end DocPull.Csv
