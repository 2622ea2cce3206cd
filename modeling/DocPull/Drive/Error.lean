import DocPull.Http.Client
import DocPull.Http.Status

/-!
# Failures of the Drive service

A failed call is one of three things: an answer with an error status, canceled work, or a service
that could not be reached or understood. An error status has a kind of its own where callers care.
-/
namespace DocPull.Drive

/-- The kind of failure that a status stands for. -/
def statusKind? (code : Int) : Option FailureKind :=
  if code = 400 then some .badRequest
  else if code = 401 then some .unauthorized
  else if code = 403 then some .forbidden
  else if code = 404 then some .notFound
  else if code = 429 then some .rateLimited
  else if 500 ≤ code then some .serverError
  else none

def kindMessage : FailureKind → Bytes
  | .badRequest => "drive: bad request"
  | .unauthorized => "drive: unauthorized"
  | .forbidden => "drive: forbidden"
  | .notFound => "drive: not found"
  | .rateLimited => "drive: rate limited"
  | .serverError => "drive: server error"
  | _ => "drive: network error"

/-- An answer with an error status. -/
structure ApiError where
  status : Int
  reason : Bytes
  message : Bytes
  deriving DecidableEq, Repr

def ApiError.text (e : ApiError) : Bytes :=
  let reason := if e.reason = [] then [] else DocPull.text [" (", e.reason, ")"]
  DocPull.text ["drive: HTTP ", Bytes.signed e.status, reason, ": ", e.message]

/-- Why the service could not be reached or understood. -/
inductive NetworkCause (ρ : Type) where
  | url (e : Url.ParseError)
  | client (e : Http.ClientError ρ)
  | body (f : Http.Fault ρ)
  /-- The answer is no document of the promised shape. -/
  | malformed
  deriving DecidableEq, Repr

/-- Why a call failed. -/
inductive Error (ρ : Type) where
  | pageSize (n : Int)
  | api (action : Bytes) (e : ApiError)
  | canceled (action : Bytes)
  | network (action : Bytes) (cause : NetworkCause ρ)
  | contentRange (fileId header : Bytes)
  deriving DecidableEq, Repr

/-- The answer with an error status that a failure is. -/
def Error.api? {ρ : Type} : Error ρ → Option ApiError
  | .api _ e => some e
  | _ => none

instance {ρ : Type} [Failure ρ] : Failure (NetworkCause ρ) where
  message
    | .url e => e.message
    | .client e => Failure.message e
    | .body f => Failure.message f
    | .malformed => "malformed JSON"
  isA
    | .url _, _ => false
    | .client e, k => Failure.isA e k
    | .body f, k => Failure.isA f k
    | .malformed, _ => false

def contentRangeMessage (header : Bytes) : Bytes :=
  text ["malformed Content-Range ", Quoted.quote header]

instance {ρ : Type} [Failure ρ] : Failure (Error ρ) where
  message
    | .pageSize n => text ["drive: page size must be positive, got ", Bytes.signed n]
    | .api action e => text ["drive: ", action, ": ", e.text]
    | .canceled action => text ["drive: ", action, " canceled: ", Http.canceledMessage]
    | .network action cause =>
      text ["drive: network error: ", action, ": ", Failure.message cause]
    | .contentRange fileId header =>
      text ["drive: exporting ", fileId, ": ", contentRangeMessage header]
  isA
    | .pageSize _, _ => false
    | .api _ e, k => k == .apiError || statusKind? e.status == some k
    | .canceled _, k => k == .canceled
    | .network _ cause, k => k == .driveNetwork || Failure.isA cause k
    | .contentRange _ _, _ => false

end DocPull.Drive
