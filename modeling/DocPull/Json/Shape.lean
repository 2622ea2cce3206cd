import DocPull.Json.Decode

/-!
# Shapes of documents

A service promises a shape for its answers. A document that breaks the promise in a member the
shape knows is refused as a whole; members it does not know may hold anything.
-/
namespace DocPull.Json

/-- What a member may hold. A null is acceptable everywhere but in place of an integer that a list
holds as a string. -/
inductive Shape where
  | text
  | flag
  | integer
  /-- A number of binary64, or a string that names one that has no numeral. -/
  | float
  /-- An integer written as a string; the string may say that there is none. -/
  | quotedInteger
  /-- An integer written as a string, as an item of a list. -/
  | integerItem
  /-- Anything whose numbers are numbers of binary64. -/
  | any
  | list (item : Shape)
  /-- An object whose members all have one shape. -/
  | dict (value : Shape)
  | record (fields : List (String × Shape))

/-- The shape of a member of a record. -/
def Shape.member? (fields : List (String × Shape)) (name : Bytes) : Option Shape :=
  match fields.find? fun f => utf8 f.1 == name with
  | some f => some f.2
  | none => (fields.find? fun f => Fold.same name f.1).map (·.2)

/-- Whether a numeral is an integer of 64 bits. -/
def isInteger (s : Bytes) : Bool := (Numeral.integer s).toOption.isSome

/-- Whether a numeral is a number of binary64. -/
def isFloat (s : Bytes) : Bool := (Numeral.binary64 s).toOption.isSome

/-- The strings that name a number without a numeral. -/
def floatNames : List String := ["NaN", "Infinity", "-Infinity"]

mutual

/-- Whether a document has a shape. -/
def fits : Json → Shape → Bool
  | .null, .integerItem => false
  | .null, _ => true
  | .bool _, .flag => true
  | .bool _, .any => true
  | .number l, .integer => isInteger l
  | .number l, .float => isFloat l
  | .number l, .any => isFloat l
  | .string _, .text => true
  | .string _, .any => true
  | .string l, .float => floatNames.any fun n => utf8 n == unquote l
  | .string l, .quotedInteger => unquote l == utf8 "null" || isInteger (unquote l)
  | .string l, .integerItem => isInteger (unquote l)
  | .array items, .list s => fitAll items s
  | .array items, .any => fitAll items .any
  | .object members, .any => fitValues members .any
  | .object members, .dict s => fitValues members s
  | .object members, .record fields => fitMembers members fields
  | _, _ => false

def fitAll : List Json → Shape → Bool
  | [], _ => true
  | j :: js, s => fits j s && fitAll js s

/-- Whether all members have one shape. -/
def fitValues : List (Bytes × Json) → Shape → Bool
  | [], _ => true
  | (_, j) :: ms, s => fits j s && fitValues ms s

/-- Whether all known members have their shapes. -/
def fitMembers : List (Bytes × Json) → List (String × Shape) → Bool
  | [], _ => true
  | (name, j) :: ms, fields =>
    (match Shape.member? fields name with
      | some s => fits j s
      | none => true) && fitMembers ms fields

end

end DocPull.Json
