import DocPull.Number.Numeral
import DocPull.Url.Escape

/-!
# Paths with placeholders

A template is a path in which expressions in braces stand for values. An expression may begin with
an operator, which decides how its values are introduced, separated and escaped; then it lists
names, each of which may ask for the beginning of its value only. A template is expanded twice
at once: with its values escaped, and as it is meant.
-/
namespace DocPull.Template

/-- How the values of an expression are written. -/
structure Style where
  /-- What stands before the first value. -/
  first : String
  /-- What stands between values. -/
  sep : String
  /-- Whether a value comes after its name. -/
  named : Bool
  /-- What stands between a name and an empty value. -/
  ifEmpty : String
  /-- Whether characters with a meaning in a URL are left as they are. -/
  reserved : Bool

/-- The style of an expression without an operator. -/
def Style.plain : Style := ⟨"", ",", false, "", false⟩

def operators : List (Char × Style) :=
  [('+', ⟨"", ",", false, "", true⟩), ('.', ⟨".", ".", false, "", false⟩),
    ('/', ⟨"/", "/", false, "", false⟩), (';', ⟨";", ";", true, "", false⟩),
    ('?', ⟨"?", "&", true, "=", false⟩), ('&', ⟨"&", "&", true, "=", false⟩),
    ('#', ⟨"#", ",", false, "", true⟩)]

/-- One name of an expression. -/
structure Term where
  name : Bytes
  /-- How many bytes of the value are meant; zero stands for all of them. -/
  limit : Nat

/-- Whether a text is a name: letters, digits, underscores, points and escaped bytes. -/
def isName (s : Bytes) : Bool := s != [] && go 0 s
where
  /-- Reads on, given how many hexadecimal digits are due. -/
  go : Nat → Bytes → Bool
    | due, [] => due == 0
    | due + 1, b :: rest => (Bytes.hex? b).isSome && go due rest
    | 0, b :: rest =>
      if b = byte '%' then go 2 rest
      else (Bytes.isLetter b || Bytes.isDigit b || Url.isOneOf "_." b) && go 0 rest

/-- One name with its modifier: a star, which changes nothing, or a colon and a limit. -/
def term? (s : Bytes) : Option Term := do
  let starred := Bytes.endsWith s "*"
  let body := if starred then s.dropLast else s
  match Bytes.split (byte ':') body with
  | [name] =>
    guard (isName name)
    pure ⟨name, 0⟩
  | [name, limit] =>
    let n ← (Numeral.integer limit).toOption
    guard (isName name && !(starred && 0 < n))
    pure ⟨name, n.toNat⟩
  | _ => none

/-- An expression: its style and its names. -/
def expression? : Bytes → Option (Style × List Term)
  | [] => none
  | b :: rest =>
    let (style, names) := match operators.find? fun o => byte o.1 == b with
      | some (_, style) => (style, rest)
      | none => (.plain, b :: rest)
    ((Bytes.split (byte ',') names).mapM term?).map (style, ·)

/-- A piece of a template: an expression and the text after it. -/
def piece? (s : Bytes) : Option ((Style × List Term) × Bytes) :=
  match Bytes.split (byte '\x7d') s with
  | [expression, after] => (expression? expression).map (·, after)
  | _ => none

/-- A text with its values escaped, and as it is meant. -/
structure Expansion where
  written : Bytes
  meaning : Bytes

/-- The characters that have a meaning in a URL. -/
def reservedBytes : String := ":/?#[]@!$&'()*+,;="

/-- One byte of a value as a style writes it. -/
def writeByte (style : Style) (b : UInt8) : Bytes :=
  if Url.isUnreserved b || (style.reserved && Url.isOneOf reservedBytes b) then [b]
  else Url.percent b

/-- One value as a style writes it. -/
def expandTerm (style : Style) (t : Term) (value : Bytes) : Expansion :=
  let value := if t.limit = 0 then value else value.take t.limit
  let label := if style.named then
      t.name ++ utf8 (if value = [] then style.ifEmpty else "=")
    else []
  ⟨label ++ value.flatMap (writeByte style), label ++ value⟩

/-- The values of an expression; names without a value are passed over. -/
def expandTerms (values : List (Bytes × Bytes)) (style : Style) (ts : List Term) : Expansion :=
  let found := ts.filterMap fun t => (values.lookup t.name).map (expandTerm style t)
  let joined (parts : List Bytes) : Bytes :=
    if parts = [] then [] else text [style.first, Bytes.join style.sep parts]
  ⟨joined (found.map (·.written)), joined (found.map (·.meaning))⟩

/-- A template with the values of its names filled in; nothing when it is malformed. -/
def expand? (values : List (Bytes × Bytes)) (template : Bytes) : Option Expansion :=
  match Bytes.split (byte '\x7b') template with
  | [] => none
  | first :: rest => do
    guard (!first.contains (byte '\x7d'))
    let pieces ← rest.mapM piece?
    let parts := pieces.map fun ((style, terms), after) => (expandTerms values style terms, after)
    pure ⟨first ++ parts.flatMap fun (e, after) => e.written ++ after,
      first ++ parts.flatMap fun (e, after) => e.meaning ++ after⟩

end DocPull.Template
