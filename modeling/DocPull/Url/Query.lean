import DocPull.Url.Escape

/-!
# Query parameters

A query is a list of pairs joined by ampersands. Reading drops a pair that cannot be unescaped
or that holds a semicolon; writing puts the pairs in order of their names.
-/
namespace DocPull.Query

/-- Names with their values, in order. -/
abbrev Params := List (Bytes × Bytes)

/-- One written pair; a name alone has an empty value. -/
def readPair (s : Bytes) : Option (Bytes × Bytes) :=
  if s = [] ∨ s.contains (byte ';') then none
  else
    let (name, value) := (Bytes.cut (byte '=') s).getD (s, [])
    match Url.unescape .query name, Url.unescape .query value with
    | .ok n, .ok v => some (n, v)
    | _, _ => none

/-- The largest number of pairs in a query. -/
def maxPairs : Nat := 10000

/-- Whether a query has more pairs than can be read. -/
def tooLong (s : Bytes) : Bool := maxPairs < s.count (byte '&') + 1

/-- The pairs of a query, in order; none of a query that is too long. -/
def parse (s : Bytes) : Params :=
  if tooLong s then [] else (Bytes.split (byte '&') s).filterMap readPair

/-- Why a query is refused when it is read strictly. -/
inductive Fault where
  | tooLong
  | semicolon
  | escape (e : Url.EscapeError)
  deriving DecidableEq, Repr

def Fault.message : Fault → Bytes
  | tooLong => "number of URL query parameters exceeded limit"
  | semicolon => "invalid semicolon separator in query"
  | escape e => e.message

/-- The bad escape of a written pair. -/
def badEscape? (s : Bytes) : Option Url.EscapeError :=
  let (name, value) := (Bytes.cut (byte '=') s).getD (s, [])
  match Url.unescape .query name with
  | .error e => some e
  | .ok _ =>
    match Url.unescape .query value with
    | .error e => some e
    | .ok _ => none

/-- The pairs of a query, all of which must be readable. A semicolon is reported before any bad
escape. -/
def parseStrict (s : Bytes) : Except Fault Params :=
  if tooLong s then .error .tooLong
  else if s.contains (byte ';') then .error .semicolon
  else
    match (Bytes.split (byte '&') s).findSome? badEscape? with
    | some e => .error (.escape e)
    | none => .ok (parse s)

/-- The first value of a name; empty when there is none. -/
def get (ps : Params) (name : Bytes) : Bytes := (ps.lookup name).getD []

/-- Puts a pair before the first one with a larger name. -/
def insert (p : Bytes × Bytes) : Params → Params
  | [] => [p]
  | q :: qs => if p.1 < q.1 then p :: q :: qs else q :: insert p qs

/-- Pairs in order of their names; pairs of one name keep their order. -/
def sort (ps : Params) : Params := ps.foldl (fun sorted p => insert p sorted) []

def writePair (p : Bytes × Bytes) : Bytes :=
  text [Url.escape .query p.1, "=", Url.escape .query p.2]

/-- A query that holds the pairs, in order of their names. -/
def write (ps : Params) : Bytes := Bytes.join "&" ((sort ps).map writePair)

end DocPull.Query
