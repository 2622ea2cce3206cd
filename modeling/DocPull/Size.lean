import DocPull.Number.Numeral
import DocPull.Text.Blank
import DocPull.Text.Fold

/-!
# Byte sizes

Sizes are written with a decimal or binary unit and shown with a binary one. A size with a unit
is computed in binary64 and cut to a 64-bit integer.
-/
namespace DocPull.Size

/-- Why a size is refused, with the text that was read. -/
inductive Error where
  | integer (size : Bytes) (fault : Numeral.Fault)
  | number (size numeral : Bytes) (fault : Numeral.Fault)
  | negative (size : Bytes)
  deriving DecidableEq, Repr

def Error.message : Error → Bytes
  | integer s f => text ["invalid size ", Quoted.quote s, ": ", f.message "ParseInt" s]
  | number s n f => text ["invalid size ", Quoted.quote s, ": ", f.message "ParseFloat" n]
  | negative s => text ["invalid size ", Quoted.quote s, ": must be non-negative"]

/-- The units with their number of bytes; a unit comes before every unit that it ends with. -/
def units : List (String × Nat) :=
  [("GIB", 1073741824), ("MIB", 1048576), ("KIB", 1024), ("GB", 1000000000), ("MB", 1000000),
    ("KB", 1000), ("B", 1)]

/-- The unit at the end of a size, in any case, and the text before it. -/
def unit? (s : Bytes) : Option (Bytes × Nat) :=
  let shouted := Fold.upper s
  (units.find? fun (name, _) => Bytes.endsWith shouted (utf8 name)).map fun (name, bytes) =>
    (s.take (s.length - (utf8 name).length), bytes)

/-- A number of units as a number of bytes. -/
def scaled (size numeral : Bytes) (unit : Nat) : Except Error Int :=
  match Numeral.binary64 numeral with
  | .error f => .error (.number size numeral f)
  | .ok v =>
    if v.isNegative then .error (.negative size)
    -- No bound is looked at: what does not fit 64 bits becomes the smallest integer.
    else .ok (Binary64.mul v (Binary64.ofInt unit)).truncate

/-- The number of bytes that a size stands for. A size without digits or unit is zero. -/
def parse (input : Bytes) : Except Error Int :=
  let s := Blank.trim input
  if s = [] ∨ s = utf8 "0" then .ok 0
  else
    match unit? s with
    -- A lone unit leaves an empty numeral, which is refused as such.
    | some (numeral, unit) => scaled s (Blank.trim numeral) unit
    | none =>
      match Numeral.integer s with
      | .error f => .error (.integer s f)
      | .ok n => if n < 0 then .error (.negative s) else .ok n

/-- The display units, largest first. -/
def displayUnits : List (Nat × String) := [(1073741824, "GB"), (1048576, "MB"), (1024, "KB")]

/-- The unit a size is shown in, when it is not shown in bytes. -/
def displayUnit? (n : Int) : Option (Nat × String) :=
  displayUnits.find? fun (bytes, _) => (bytes : Int) ≤ n

/-- The quotient of a size and its unit, after the size was rounded to binary64. -/
def displayed (n : Int) (unit : Nat) : Nat × Nat :=
  match Binary64.ofInt n with
  | .finite _ m e =>
    let (num, den) := Binary64.ratio m e
    (num, den * unit)
  | _ => (0, 1)

/-- A size for people: one digit after the point of the largest unit it reaches. -/
def format (n : Int) : Bytes :=
  match displayUnit? n with
  | some (unit, name) =>
    let (num, den) := displayed n unit
    text [Binary64.oneDecimal num den, " ", name]
  | none => text [Bytes.signed n, " B"]

end DocPull.Size
