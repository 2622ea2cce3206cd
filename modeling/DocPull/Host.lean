import DocPull.Auth.Source
import DocPull.Export.Download
import DocPull.Http.Client
import DocPull.Log

/-!
# The world around the program

All effects of the program are changes of one value: the file tree, the network, what is printed
and logged, and the browser in which the user grants access. Time and randomness are given.
-/
namespace DocPull

/-- Randomness: digits for the names of temporary files, one text for each attempt, and the
secrets of a login. -/
structure Entropy where
  digits : Nat → Bytes
  state : Bytes
  verifier : Bytes
  port : Nat

/-- A request that reaches the listener of a login. What it asks for may depend on the state that
the consent page was opened with. -/
structure Callback where
  method : Bytes
  target : (state : Bytes) → Bytes
  /-- The bytes of its header fields, with the empty line behind them. -/
  fields : Nat

/-- What the user does after the callbacks. -/
inductive VisitEnd where
  | waits
  | cancels
  /-- The user interrupts the program. -/
  | interrupts
  deriving DecidableEq, Repr

/-- What happens once the consent URL is in front of the user. -/
structure Visit where
  callbacks : List Callback
  ending : VisitEnd

/-- How the consent URL comes in front of the user. -/
inductive Launch where
  /-- There is no way to open a browser; the URL is printed. -/
  | unavailable
  /-- A browser opens. -/
  | opens
  /-- A browser opens, and then its start is reported as failed. -/
  | opensAndFails (message : Bytes)
  /-- No browser opens, and its start is reported as failed; the URL is printed. -/
  | fails (message : Bytes)
  deriving DecidableEq, Repr

/-- Whether callbacks can be listened for. -/
inductive Listener where
  | works
  | cannotBind (message : Bytes)
  | wrongAddress
  | cannotAccept (message : Bytes)
  deriving DecidableEq, Repr

/-- What was printed or logged beside the results. -/
inductive ConsoleItem where
  | log (e : Log.Entry)
  /-- What the user is asked to do. -/
  | prompt (s : Bytes)
  /-- What was done. -/
  | status (s : Bytes)
  /-- How far an export is. -/
  | progress (s : Bytes)
  /-- How the program is used, after a question that has no answer. -/
  | usage (s : Bytes)
  deriving DecidableEq, Repr

structure Page where
  status : Nat
  contentType : Bytes
  body : Bytes
  deriving DecidableEq, Repr

/-- A consent URL that was shown, with the pages the callbacks got. -/
structure Consent where
  url : Bytes
  pages : List Page
  deriving DecidableEq, Repr

/-- The world around the program. -/
structure Host where
  tree : Files.Tree
  wire : Http.Wire
  /-- What was printed or logged beside the results, the last item first. -/
  console : List ConsoleItem := []
  /-- What was printed as a result. -/
  output : Bytes := []
  launch : Launch := .opens
  visit : Visit := ⟨[], .cancels⟩
  listener : Listener := .works
  /-- The consent URLs that were shown, the last one first. -/
  consents : List Consent := []
  /-- Where authorized requests get their tokens. -/
  session : Option Auth.Session := none
  now : Instant
  entropy : Entropy

instance : HasTree Host := ⟨Host.tree, fun t h => { h with tree := t }⟩

instance : Http.HasWire Host := ⟨Host.wire, fun w h => { h with wire := w }⟩

namespace Host

def display (item : ConsoleItem) (h : Host) : Host := { h with console := item :: h.console }

def log (level : Log.Level) (message : String) (fields : List (String × Log.Value)) (h : Host) :
    Host :=
  h.display (.log ⟨level, message, fields⟩)

def print (s : Bytes) (h : Host) : Host := { h with output := h.output ++ s }

/-- Drops the log entries below a level. -/
def logFrom (level : Log.Level) (h : Host) : Host :=
  let counts : ConsoleItem → Bool
    | .log e => level.weight ≤ e.level.weight
    | _ => true
  { h with console := h.console.filter counts }

def cancel (h : Host) : Host := { h with wire := { h.wire with canceled := true } }

end Host

end DocPull
