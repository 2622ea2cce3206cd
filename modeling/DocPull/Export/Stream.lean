import DocPull.Failure
import DocPull.Number.Binary64
import DocPull.Number.Numeral

/-!
# Assembling a document from ranges

A document arrives in chunks, each fetched by a range of bytes. The stream asks for the range
after what it holds, takes what the source gives, and decides when the document is whole: a known
total is reached, a chunk of unknown total is short, or the source sent everything at once. The
fraction it reports never decreases. Fractions are formed by a given arithmetic, so that the same
stream can be followed in binary64 and in exact quotients.
-/
namespace DocPull

/-- The arithmetic in which fractions are formed and compared. -/
structure Quotients (φ : Type) where
  zero : φ
  one : φ
  quotient : Int → Int → φ
  less : φ → φ → Bool

/-- Fractions in binary64: both numbers are rounded, and then their quotient. -/
def Quotients.binary64 : Quotients Binary64 :=
  ⟨.zero, .one, fun a b => Binary64.div (Binary64.ofInt a) (Binary64.ofInt b), Binary64.less⟩

/-- One ranged answer. -/
structure Chunk where
  data : Bytes
  /-- The length of the whole document, when the answer states it. -/
  total : Option Nat
  /-- The answer is the whole document, whatever range was asked for. -/
  complete : Bool
  deriving DecidableEq, Repr

/-- Where chunks come from. A source has a state of its own; it is asked for the bytes from the
first to the last position, both included. Every chunk uses up some of what is left. -/
structure ChunkSource (σ ε : Type) where
  fetch : (first last : Int) → σ → Except ε Chunk × σ
  left : σ → Nat

/-- What is reported after a chunk. -/
structure Progress (φ : Type) where
  received : Nat
  total : Option Nat
  fraction : φ
  final : Bool
  deriving Repr

/-- A fraction as a whole percentage, rounded down. -/
def percent (fraction : Binary64) : Int :=
  (Binary64.mul fraction (Binary64.ofInt 100)).truncate

/-- The words for a percentage, on a line of its own or rewriting the line of a terminal. -/
def progressLine (terminal : Bool) (fraction : Binary64) (final : Bool) : Bytes :=
  let shown := text ["Download ", Bytes.signed (percent fraction), "%."]
  if terminal then text ["\r", shown, if final then "\n" else ""] else text [shown, "\n"]

/-- Why a stream gives no further chunk. -/
inductive StreamError (ε : Type) where
  | alreadyComplete
  | noProgress (received total : Nat)
  | fetch (first last : Int) (cause : ε)
  deriving DecidableEq, Repr

/-- What the source failed with. -/
def StreamError.cause? {ε : Type} : StreamError ε → Option ε
  | .fetch _ _ e => some e
  | _ => none

instance {ε : Type} [Failure ε] : Failure (StreamError ε) where
  message
    | .alreadyComplete => "export: stream already complete"
    | .noProgress received total =>
      text ["export: empty chunk before end of content: ", Bytes.decimal received, " of ",
        Bytes.decimal total, " bytes"]
    | .fetch first last e =>
      text ["export: fetching bytes ", Bytes.signed first, "-", Bytes.signed last, ": ",
        Failure.message e]
  isA
    | .alreadyComplete, k => k == .streamDone
    | .noProgress _ _, k => k == .noProgress
    | .fetch _ _ e, k => Failure.isA e k

/-- A document under assembly. -/
structure Stream (φ : Type) where
  chunkSize : Int
  /-- The bytes held so far. -/
  content : Bytes
  received : Nat
  total : Option Nat
  fraction : φ
  done : Bool

namespace Stream

variable {φ σ ε : Type}

/-- The size of the ranges asked for when none is given: a hundred mebibytes. -/
def defaultChunkSize : Int := 104857600

/-- A stream that holds nothing yet. A size that is not positive selects the default. -/
def start (q : Quotients φ) (chunkSize : Int) : Stream φ :=
  ⟨if chunkSize ≤ 0 then defaultChunkSize else chunkSize, [], 0, none, q.zero, false⟩

/-- The first and the last position of the next range. -/
def range (s : Stream φ) : Int × Int := (s.received, Numeral.wrap (s.received + s.chunkSize - 1))

/-- The fraction that is known or estimated for what is held. -/
def estimate (q : Quotients φ) (s : Stream φ) : φ :=
  if s.done then q.one
  else
    match s.total with
    | some (t + 1) => q.quotient s.received (t + 1 : Nat)
    -- A document as long as one more chunk is the best guess.
    | _ => q.quotient s.received (Numeral.wrap (s.received + s.chunkSize))

/-- The report on what is held, and the stream that remembers its fraction. -/
def report (q : Quotients φ) (s : Stream φ) : Progress φ × Stream φ :=
  let f := s.estimate q
  let fraction := if q.less f s.fraction then s.fraction else f
  (⟨s.received, s.total, fraction, s.done⟩, { s with fraction := fraction })

/-- Adds the data of a chunk, and the total when it states one. -/
def add (s : Stream φ) (c : Chunk) : Stream φ :=
  { s with
    content := s.content ++ c.data
    received := s.received + c.data.length
    total := c.total.or s.total }

def take (q : Quotients φ) (s : Stream φ) (c : Chunk) :
    Except (StreamError ε) (Progress φ) × Stream φ :=
  let n := c.data.length
  let finish (s : Stream φ) : Except (StreamError ε) (Progress φ) × Stream φ :=
    let (p, s) := s.report q
    (.ok p, s)
  if c.complete then
    finish { s with content := c.data, received := n, total := some n, done := true }
  else
    let s := s.add c
    match s.total with
    | some t =>
      if t ≤ s.received then finish { s with done := true }
      -- Without this a source that gives nothing would be asked for ever.
      else if n = 0 then (.error (.noProgress s.received t), s)
      else finish s
    -- With no total a chunk that is short is taken for the last one.
    | none => if (n : Int) < s.chunkSize then finish { s with done := true } else finish s

/-- Fetches and takes in the next chunk. A failed fetch leaves the stream as it was. -/
def next (q : Quotients φ) (src : ChunkSource σ ε) (s : Stream φ) (w : σ) :
    Except (StreamError ε) (Progress φ) × Stream φ × σ :=
  if s.done then (.error .alreadyComplete, s, w)
  else
    let (first, last) := s.range
    match src.fetch first last w with
    | (.error e, w) => (.error (.fetch first last e), s, w)
    | (.ok c, w) =>
      let (r, s) := s.take q c
      (r, s, w)

/-- Pulls chunks until the document is whole, reporting each. What the source has left bounds
their number. -/
def pull (q : Quotients φ) (src : ChunkSource σ ε) (note : Progress φ → σ → σ) :
    (fuel : Nat) → Stream φ → σ → Except (StreamError ε) Unit × Stream φ × σ
  | 0, s, w => (.error .alreadyComplete, s, w)
  | fuel + 1, s, w =>
    if s.done then (.ok (), s, w)
    else
      match s.next q src w with
      | (.error e, s, w) => (.error e, s, w)
      | (.ok p, s, w) => pull q src note fuel s (note p w)

def pullAll (q : Quotients φ) (src : ChunkSource σ ε) (note : Progress φ → σ → σ)
    (chunkSize : Int) (w : σ) : Except (StreamError ε) Unit × Stream φ × σ :=
  pull q src note (src.left w + 2) (start q chunkSize) w

end Stream

end DocPull
