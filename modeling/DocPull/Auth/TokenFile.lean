import DocPull.Auth.Token
import DocPull.Failure
import DocPull.Files.AtomicWrite
import DocPull.Json.Decode
import DocPull.Json.Reader

/-!
# The token file

A credential is saved as a JSON document, readable by its owner only, and replaced all at once. A
file that is there but cannot be read as a credential is an error and never replaced silently.
-/
namespace DocPull.Auth.TokenFile

open Files

/-- The modes of the file and of directories made for it. -/
def fileMode : Nat := 0o600
def dirMode : Nat := 0o700

/-- Why a token file could not be used. -/
inductive Error where
  | unreadable (path : Bytes) (e : PathError)
  | malformed (path : Bytes)
  | noToken (path : Bytes)
  | emptyToken (path : Bytes)
  | nothingToSave
  /-- A document cannot hold the expiry. -/
  | unwritableExpiry (why : Instant.Unwritable)
  | unwritable (e : WriteError)
  | unremovable (path : Bytes) (e : PathError)
  deriving DecidableEq, Repr

def Error.message : Error → Bytes
  | unreadable path e => text ["tokenfile: reading ", path, ": ", e.message]
  | malformed path => text ["tokenfile: decoding ", path, ": malformed JSON"]
  | noToken path => text ["tokenfile: ", path, " missing token field"]
  | emptyToken path => text ["tokenfile: ", path, " has empty credentials"]
  | nothingToSave => "tokenfile: refusing to save nil token"
  | unwritableExpiry why =>
    text ["tokenfile: encoding: json: error calling MarshalJSON for type time.Time: ",
      "Time.MarshalJSON: ", why.reason]
  | unwritable e => text ["tokenfile: ", e.message]
  | unremovable path e => text ["tokenfile: removing ", path, ": ", e.message]

instance : Failure Error := ⟨Error.message, fun _ _ => false⟩

/-- An expiry, given the one there was. The reader of records knows times: it unescapes their text
before it reads it, so that an expiry may end in an escaped Z. -/
def readExpiry (old : Instant) : Json → Option Instant
  | .null => some old
  | .string literal => Instant.parse? (Json.unquote literal)
  | _ => none

def tokenFields : List (String × (Token → Json → Option Token)) :=
  [("access_token", fun t j => (j.toText t.accessToken).map fun v => { t with accessToken := v }),
    ("token_type", fun t j => (j.toText t.tokenType).map fun v => { t with tokenType := v }),
    ("refresh_token",
      fun t j => (j.toText t.refreshToken).map fun v => { t with refreshToken := v }),
    ("expiry", fun t j => (readExpiry t.expiry j).map fun v => { t with expiry := v }),
    ("expires_in", fun t j => (j.toInteger t.expiresIn).map fun v => { t with expiresIn := v })]

/-- A token, given the one there was. -/
def readToken (old : Token) : Json → Option Token := Json.toRecord tokenFields old

/-- What a token file holds: a token and scopes, each of which may be missing. -/
structure Content where
  token : Option Token
  scopes : Option (Json.Slots Bytes)

def contentFields : List (String × (Content → Json → Option Content)) :=
  [("token", fun c j =>
      (Json.toOptional Token.blank readToken c.token j).map fun v => { c with token := v }),
    ("scopes", fun c j => (Json.toTexts c.scopes j).map fun v => { c with scopes := v })]

def readContent : Json → Option Content := Json.toRecord contentFields ⟨none, none⟩

/-- The credential that a text holds. -/
def decode (path s : Bytes) : Except Error Credential :=
  match (Json.parse? s).bind readContent with
  | none => .error (.malformed path)
  | some ⟨none, _⟩ => .error (.noToken path)
  | some ⟨some t, scopes⟩ =>
    if t.accessToken = [] ∧ t.refreshToken = [] then .error (.emptyToken path)
    else .ok ⟨t, scopes.map (·.items)⟩

/-- A member that is left out when it says nothing. -/
def optional (name : String) (s : Bytes) : List (Bytes × Json) :=
  if s = [] then [] else [(utf8 name, .ofText s)]

def tokenJson (t : Token) : Json :=
  .object ([(utf8 "access_token", .ofText t.accessToken)] ++ optional "token_type" t.tokenType ++
    optional "refresh_token" t.refreshToken ++ [(utf8 "expiry", .ofText t.expiry.toText)] ++
    if t.expiresIn = 0 then [] else [(utf8 "expires_in", .ofInt t.expiresIn)])

def encode (t : Token) (scopes : Option (List Bytes)) : Bytes :=
  let granted := scopes.getD []
  Json.print (.object ([(utf8 "token", tokenJson t)] ++
    if granted = [] then [] else [(utf8 "scopes", .array (granted.map Json.ofText))]))

/-- The credential in a file; nothing when there is no file. -/
def load (t : Tree) (path : Bytes) : Except Error (Option Credential) :=
  match t.read path with
  | .error e => if e.fault = .noEntry then .ok none else .error (.unreadable path e)
  | .ok s => (decode path s).map some

def save (t : Tree) (path : Bytes) (token : Option Token) (scopes : Option (List Bytes))
    (digits : Nat → Bytes) : Written Error Unit :=
  match token with
  | none => ⟨[], .error .nothingToSave⟩
  | some token =>
    match token.expiry.unwritable? with
    | some why => ⟨[], .error (.unwritableExpiry why)⟩
    | none =>
      let written := writeFile t path (encode token scopes) fileMode dirMode digits
      ⟨written.trees, written.result.mapError .unwritable⟩

/-- Removes the file; one that is missing is removed already. -/
def remove (t : Tree) (path : Bytes) : Except Error Tree :=
  match t.remove path with
  | .ok t => .ok t
  | .error e => if e.fault = .noEntry then .ok t else .error (.unremovable path e)

end DocPull.Auth.TokenFile
