import DocPull.Instant
import DocPull.Text.Quoted

/-!
# The log

Log entries are data: a level, a message and named values. Printed, an entry is one line of
`key=value` pairs; a value is quoted when it would otherwise not be read back as one word.
-/
namespace DocPull.Log

inductive Level where
  | debug
  | info
  | warn
  | error
  deriving DecidableEq, Repr

def Level.weight : Level → Nat
  | debug => 0
  | info => 1
  | warn => 2
  | error => 3

def Level.name : Level → String
  | debug => "DEBUG"
  | info => "INFO"
  | warn => "WARN"
  | error => "ERROR"

inductive Value where
  | text (s : Bytes)
  | integer (n : Int)
  | flag (b : Bool)
  | time (t : Instant)
  deriving DecidableEq, Repr

structure Entry where
  level : Level
  message : String
  fields : List (String × Value)
  deriving DecidableEq, Repr

/-- Whether a unit of text forces quotes around its value. -/
def forcesQuotes : TextUnit → Bool
  | .stray _ => true
  | .char c =>
    if c.toNat < 0x80 then c.toNat ≤ 0x20 || c == '"' || c == '='
    else c == '\ufffd' || !Printable.isPrintable c

/-- A text as a value. -/
def word (s : Bytes) : Bytes :=
  if s.isEmpty || (TextUnit.read s).any forcesQuotes then Quoted.quote s else s

def Value.print : Value → Bytes
  | text s => word s
  | integer n => Bytes.signed n
  | flag b => if b then "true" else "false"
  | time t => t.toMillis

def Entry.line (e : Entry) : Bytes :=
  DocPull.text ["level=", e.level.name, " msg=", word (utf8 e.message),
    e.fields.flatMap fun (name, v) => DocPull.text [" ", name, "=", v.print], "\n"]

end DocPull.Log
