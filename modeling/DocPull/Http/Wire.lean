import DocPull.Url.Basic
import DocPull.Url.Query

/-!
# Requests and answers

The network is seen as a queue of answers: each request is recorded and takes the next one. Work
can be canceled, before a request, instead of an answer, or while a body is read; from then on
requests fail without taking an answer. A request that does not listen to cancellation goes out
anyway.
-/
namespace DocPull.Http

/-- The headers that the program sets. -/
structure Headers where
  authorization : Option Bytes := none
  contentType : Option Bytes := none
  range : Option Bytes := none
  userAgent : Option Bytes := none
  deriving DecidableEq, Repr

structure Request where
  method : String
  url : Url
  headers : Headers
  form : Option Query.Params
  deriving DecidableEq, Repr

inductive BodyEnd where
  | complete
  | fails (message : Bytes)
  | cancels
  deriving DecidableEq, Repr

/-- A reply whose body has not been read. -/
structure Reply where
  status : Nat
  headers : List (Bytes × Bytes)
  body : Bytes
  ending : BodyEnd
  deriving DecidableEq, Repr

/-- What a request gets. -/
inductive Answer where
  | reply (r : Reply)
  | failure (message : Bytes)
  | cancel
  deriving DecidableEq, Repr

/-- The network as the program sees it. -/
structure Wire where
  answers : List Answer
  /-- The requests made so far, the last one first. -/
  sent : List Request
  canceled : Bool
  deriving Repr

/-- States that hold a network. -/
class HasWire (σ : Type) where
  wire : σ → Wire
  setWire : Wire → σ → σ

instance : HasWire Wire := ⟨id, fun w _ => w⟩

/-- Why a request or a body failed. -/
inductive Fault (ρ : Type) where
  | canceled
  | failed (message : Bytes)
  /-- The request could not be authorized. -/
  | refused (cause : ρ)
  deriving DecidableEq, Repr

def canceledMessage : Bytes := "context canceled"

/-- The value of a header, found in any case; empty when it is missing. -/
def Reply.header (r : Reply) (name : String) : Bytes :=
  let lowered := (utf8 name).map Bytes.lower
  ((r.headers.find? fun h => h.1.map Bytes.lower == lowered).map (·.2)).getD []

namespace Wire

/-- The network with a queue of answers and no requests yet. -/
def ofAnswers (answers : List Answer) (canceled : Bool) : Wire := ⟨answers, [], canceled⟩

def send {ρ : Type} (listens : Bool) (r : Request) (w : Wire) : Except (Fault ρ) Reply × Wire :=
  let w := { w with sent := r :: w.sent }
  if listens && w.canceled then (.error .canceled, w)
  else
    match w.answers with
    | [] => (.error (.failed "no more responses"), w)
    | .reply reply :: rest => (.ok reply, { w with answers := rest })
    | .failure m :: rest => (.error (.failed m), { w with answers := rest })
    | .cancel :: rest => (.error .canceled, { w with answers := rest, canceled := true })

/-- Reads a body, at most up to a limit. A body that is cut by the limit has no end to fail. -/
def readBody {ρ : Type} (limit : Option Nat) (r : Reply) (w : Wire) :
    Except (Fault ρ) Bytes × Wire :=
  let ended : Except (Fault ρ) Bytes × Wire := match r.ending with
    | .complete => (.ok r.body, w)
    | .fails m => (.error (.failed m), w)
    | .cancels => (.error .canceled, { w with canceled := true })
  match limit with
  | none => ended
  | some n => if n ≤ r.body.length then (.ok (r.body.take n), w) else ended

end Wire

end DocPull.Http
