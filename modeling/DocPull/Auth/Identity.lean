import DocPull.Failure
import DocPull.Files.Tree
import DocPull.Json.Decode
import DocPull.Json.Reader

/-!
# The client's identity

Before a user can grant access, the client has to say who it is: by an id and a secret, given
directly or in a file from the provider.
-/
namespace DocPull.Auth

/-- The pages of a provider, and how the client identifies itself there: in the form (1), in a
header (2), or in the way that turns out to work (0). -/
structure Endpoint where
  authUrl : Bytes
  tokenUrl : Bytes
  style : Int
  deriving DecidableEq, Repr

def googleEndpoint : Endpoint :=
  ⟨"https://accounts.google.com/o/oauth2/auth", "https://oauth2.googleapis.com/token", 1⟩

/-- Who the client is, and what it asks for. -/
structure Identity where
  clientId : Bytes
  clientSecret : Bytes
  redirectUrl : Bytes
  scopes : List Bytes
  endpoint : Endpoint
  deriving DecidableEq, Repr

/-- Why the client's identity is not known. -/
inductive IdentityError where
  | notConfigured
  | unreadable (e : Files.PathError)
  | malformed (path : Bytes)
  | noCredentials (path : Bytes)
  | noRedirect (path : Bytes)
  deriving DecidableEq, Repr

def IdentityError.message : IdentityError → Bytes
  | notConfigured => "no client ID and no client secret file configured"
  | unreadable e => e.message
  | malformed path => text ["parsing ", path, ": malformed JSON"]
  | noCredentials path => text ["parsing ", path, ": oauth2/google: no credentials found"]
  | noRedirect path =>
    text ["parsing ", path,
      ": oauth2/google: missing redirect URL in the client_credentials.json"]

/-- One entry of a client secret file. -/
structure ClientEntry where
  clientId : Bytes
  clientSecret : Bytes
  redirectUrls : Option (Json.Slots Bytes)
  authUrl : Bytes
  tokenUrl : Bytes

/-- Reads an entry, given the one there was. -/
def readEntry (old : ClientEntry) : Json → Option ClientEntry :=
  Json.toRecord
    [("client_id", fun c j => (j.toText c.clientId).map fun v => { c with clientId := v }),
      ("client_secret",
        fun c j => (j.toText c.clientSecret).map fun v => { c with clientSecret := v }),
      ("redirect_uris",
        fun c j => (Json.toTexts c.redirectUrls j).map fun v => { c with redirectUrls := v }),
      ("auth_uri", fun c j => (j.toText c.authUrl).map fun v => { c with authUrl := v }),
      ("token_uri", fun c j => (j.toText c.tokenUrl).map fun v => { c with tokenUrl := v })]
    old

def readEntries : Json → Option (Option ClientEntry × Option ClientEntry) :=
  let entry (old : Option ClientEntry) (j : Json) : Option (Option ClientEntry) :=
    Json.toOptional ⟨[], [], none, [], []⟩ readEntry old j
  Json.toRecord
    [("web", fun p j => (entry p.1 j).map fun v => (v, p.2)),
      ("installed", fun p j => (entry p.2 j).map fun v => (p.1, v))]
    (none, none)

/-- The identity in a client secret file. The entry for a web client comes first. -/
def readIdentity (path content : Bytes) (scopes : List Bytes) : Except IdentityError Identity :=
  match (Json.parse? content).bind readEntries with
  | none => .error (.malformed path)
  | some (web, installed) =>
    match web.or installed with
    | none => .error (.noCredentials path)
    | some c =>
      match c.redirectUrls.map (·.items) with
      | some (redirect :: _) =>
        .ok ⟨c.clientId, c.clientSecret, redirect, scopes, ⟨c.authUrl, c.tokenUrl, 0⟩⟩
      | _ => .error (.noRedirect path)

end DocPull.Auth
