import DocPull.Failure
import DocPull.Http.Wire
import DocPull.Text.Base64
import DocPull.Url.DomainName

/-!
# Following redirects

A client sends a request and follows the redirects it gets, up to ten. What was sent with the
first request is sent again, except that an authorization does not travel to another domain and
that a form, with the header that announces it, is dropped from the first redirect on that asks for
the page only.
-/
namespace DocPull.Http

/-- Why a client has no reply to show. -/
inductive Cause (ρ : Type) where
  | fault (f : Fault ρ)
  | tooManyRedirects
  | badLocation (location : Bytes) (e : Url.ParseError)
  deriving DecidableEq, Repr

/-- A failed request, with the method and the URL it was at. -/
structure ClientError (ρ : Type) where
  method : String
  url : Bytes
  cause : Cause ρ
  deriving DecidableEq, Repr

instance {ρ : Type} [Failure ρ] : Failure (Fault ρ) where
  message
    | .canceled => canceledMessage
    | .failed m => m
    | .refused e => Failure.message e
  isA
    | .canceled, k => k == .canceled
    | .failed _, _ => false
    | .refused e, k => Failure.isA e k

/-- A method with only its first letter in upper case. -/
def titled (method : String) : Bytes :=
  match utf8 method with
  | [] => []
  | b :: rest => b :: rest.map Bytes.lower

instance {ρ : Type} [Failure ρ] : Failure (ClientError ρ) where
  message e :=
    let cause := match e.cause with
      | .fault f => Failure.message f
      | .tooManyRedirects => utf8 "stopped after 10 redirects"
      | .badLocation location err =>
        text ["failed to parse Location header ", Quoted.quote location, ": ", err.message]
    text [titled e.method, " ", Quoted.quote e.url, ": ", cause]
  isA e k :=
    match e.cause with
    | .fault f => Failure.isA f k
    | _ => false

instance : Failure Empty := ⟨Empty.elim, fun e _ => e.elim⟩

/-- A way to send one request. -/
abbrev Transport (σ ρ : Type) := Request → σ → Except (Fault ρ) Reply × σ

/-- Sends over the network as it is. -/
def plain {σ ρ : Type} [HasWire σ] (listens : Bool) : Transport σ ρ := fun r w =>
  let (result, wire) := (HasWire.wire w).send listens r
  (result, HasWire.setWire wire w)

/-- Reads a body through a state that holds the network. -/
def readBody {σ ρ : Type} [HasWire σ] (limit : Option Nat) (r : Reply) (w : σ) :
    Except (Fault ρ) Bytes × σ :=
  let (result, wire) := (HasWire.wire w).readBody limit r
  (result, HasWire.setWire wire w)

/-- Reads the start of a body only for its effect. -/
def discard {σ : Type} [HasWire σ] (limit : Nat) (r : Reply) (w : σ) : σ :=
  let result : Except (Fault Empty) Bytes × σ := readBody (some limit) r w
  result.2

/-- How much of a redirecting reply is read before the next request. -/
def skimLimit : Nat := 2048

/-- The user name and password of a URL, as an authorization. -/
def basicAuthorization (name password : Bytes) : Bytes :=
  text ["Basic ", Base64.encode (text [name, ":", password])]

/-- The request as it is sent: a user in the URL authorizes it, unless something else does. -/
def signed (r : Request) : Request :=
  match r.headers.authorization, r.url.user with
  | none, some u =>
    { r with headers := { r.headers with
        authorization := some (basicAuthorization u.name (u.password.getD [])) } }
  | _, _ => r

/-- The method of the request that a redirect asks for, and whether the form goes along. -/
def redirected? (method : String) (status : Nat) : Option (String × Bool) :=
  if status = 301 ∨ status = 302 ∨ status = 303 then
    some (if method = "GET" ∨ method = "HEAD" then method else "GET", false)
  else if status = 307 ∨ status = 308 then some (method, true)
  else none

/-- Whether a host is a domain or one below it. -/
def isWithin (host domain : Bytes) : Bool :=
  host == domain ||
    (!(host.contains (byte ':') || host.contains (byte '%')) &&
      Bytes.endsWith host (byte '.' :: domain))

/-- What is no longer sent after some redirect. -/
structure Withheld where
  authorization : Bool
  form : Bool

/-- The request to a redirect's target that repeats the first request as far as nothing is
withheld. -/
def Withheld.repeat (w : Withheld) (first : Request) (method : String) (target : Url) : Request :=
  let headers := first.headers
  let headers := if w.authorization then { headers with authorization := none } else headers
  let headers := if w.form then { headers with contentType := none } else headers
  ⟨method, target, headers, if w.form then none else first.form⟩

/-- Whether a request that was first sent to one URL may carry its authorization to another. -/
def mayCarry (first target : Url) : Bool :=
  first.host == target.host ||
    isWithin (DomainName.ascii target.hostName) (DomainName.ascii first.hostName)

/-- The number of redirects that are not followed any more. -/
def maxRedirects : Nat := 10

/-- Sends a request and follows redirects. The first request gives the method to report and what to
repeat, as far as it is not withheld. -/
def follow {σ ρ : Type} [HasWire σ] (send : Transport σ ρ) (first : Request) :
    (fuel : Nat) → Withheld → Request → σ → Except (ClientError ρ) Reply × σ
  | 0, _, r, w => (.error ⟨first.method, r.url.masked, .tooManyRedirects⟩, w)
  | fuel + 1, withheld, r, w =>
    match send (signed r) w with
    | (.error f, w) => (.error ⟨first.method, r.url.masked, .fault f⟩, w)
    | (.ok reply, w) =>
      match redirected? r.method reply.status, reply.header "Location" with
      | none, _ => (.ok reply, w)
      | _, [] => (.ok reply, w)
      | some (method, keepsForm), location =>
        match Url.parse location with
        | .error e => (.error ⟨first.method, r.url.masked, .badLocation location e⟩, w)
        | .ok ref =>
          let target := r.url.resolve ref
          let withheld : Withheld :=
            ⟨withheld.authorization || !mayCarry first.url target, withheld.form || !keepsForm⟩
          let w := discard skimLimit reply w
          -- The last redirect is counted before it is followed.
          if fuel = 0 then (.error ⟨first.method, location, .tooManyRedirects⟩, w)
          else follow send first fuel withheld (withheld.repeat first method target) w

def run {σ ρ : Type} [HasWire σ] (send : Transport σ ρ) (r : Request) (w : σ) :
    Except (ClientError ρ) Reply × σ :=
  follow send r maxRedirects ⟨false, false⟩ r w

end DocPull.Http
