import DocPull.Instant
import DocPull.Text.Fold

/-!
# Tokens and credentials

A token opens the service until it expires; with a refresh token it can be renewed. A credential
is a token together with the scopes it was granted for.
-/
namespace DocPull.Auth

/-- A token. An expiry that is not set means that the token does not expire. -/
structure Token where
  accessToken : Bytes
  tokenType : Bytes
  refreshToken : Bytes
  expiry : Instant
  expiresIn : Int
  deriving DecidableEq, Repr

def Token.blank : Token := ⟨[], [], [], Instant.unset, 0⟩

/-- How many seconds before its expiry a token counts as expired. -/
def expiryMargin : Int := 10

def Token.isValid (t : Token) (now : Instant) : Bool :=
  t.accessToken != [] && (t.expiry.isUnset || !((t.expiry.later (-expiryMargin)).before now))

/-- The scheme under which a token is presented. -/
def Token.scheme (t : Token) : Bytes :=
  if Fold.same t.tokenType "bearer" then "Bearer"
  else if Fold.same t.tokenType "mac" then "MAC"
  else if Fold.same t.tokenType "basic" then "Basic"
  else if t.tokenType = [] then "Bearer"
  else t.tokenType

/-- The header value that presents a token. -/
def Token.authorization (t : Token) : Bytes := text [t.scheme, " ", t.accessToken]

/-- A token together with the scopes it was granted for, when they are known. -/
structure Credential where
  token : Token
  scopes : Option (List Bytes)
  deriving DecidableEq, Repr

/-- Whether every required scope was granted. -/
def Credential.covers (c : Credential) (required : List Bytes) : Bool :=
  required.all fun s => (c.scopes.getD []).contains s

/-- What can be done with a saved credential. -/
inductive State where
  /-- Nothing usable is saved; the user has to grant access. -/
  | absent
  /-- The token has expired and can be renewed. -/
  | expired
  /-- The token can be used as it is. -/
  | valid
  deriving DecidableEq, Repr

def State.name : State → String
  | absent => "absent"
  | expired => "expired"
  | valid => "valid"

/-- The state of a number; the states are counted from zero. -/
def State.ofNumber? (n : Int) : Option State :=
  if n = 0 then some .absent
  else if n = 1 then some .expired
  else if n = 2 then some .valid
  else none

/-- The printed name of the state of a number, or the number itself when it has none. -/
def State.nameOf (n : Int) : Bytes :=
  match State.ofNumber? n with
  | some s => s.name
  | none => text ["State(", Bytes.signed n, ")"]

/-- The state of a saved credential, for required scopes and at a time. -/
def Credential.state (c : Credential) (required : List Bytes) (now : Instant) : State :=
  if !c.covers required then .absent
  else if c.token.isValid now then .valid
  else if c.token.refreshToken ≠ [] then .expired
  else .absent

end DocPull.Auth
