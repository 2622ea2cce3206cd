import DocPull.Host
import DocPull.Http.MediaType
import DocPull.Http.Status
import DocPull.Json.Decode
import DocPull.Json.Reader
import DocPull.Text.Blank

/-!
# Grants

The provider's token page turns a code or a refresh token into a new token. It answers with a
document or with a query, and it may refuse in many ways. Where it is not known how the client has
to identify itself, the header is tried before the form, and what worked is remembered.
-/
namespace DocPull.Auth

inductive GrantError where
  | noRefreshToken
  | badUrl (e : Url.ParseError)
  | client (e : Http.ClientError Empty)
  | body (f : Http.Fault Empty)
  | rejected (code description uri : Bytes)
  | status (status : Nat) (body : Bytes)
  | badQuery (f : Query.Fault)
  | malformed
  | noAccessToken
  deriving DecidableEq, Repr

instance : Failure GrantError where
  message
    | .noRefreshToken => "oauth2: token expired and refresh token is not set"
    | .badUrl e => e.message
    | .client e => Failure.message e
    | .body f => text ["oauth2: cannot fetch token: ", Failure.message f]
    | .rejected code description uri =>
      let part (s : Bytes) : Bytes := if s = [] then [] else text [" ", Quoted.quote s]
      text ["oauth2: ", Quoted.quote code, part description, part uri]
    | .status status body =>
      text ["oauth2: cannot fetch token: ", Http.statusLine status, "\nResponse: ", body]
    | .badQuery f => text ["oauth2: cannot parse response: ", f.message]
    | .malformed => "oauth2: cannot parse json: malformed JSON"
    | .noAccessToken => "oauth2: server response missing access_token"
  isA
    | .client e, k => Failure.isA e k
    | _, _ => false

/-- A granted token, and the scopes that the provider says it is for. -/
structure Grant where
  token : Token
  scope : Option Bytes

/-- What a token page says, before it is known whether it grants anything. -/
structure GrantReply where
  grant : Grant
  errorCode : Bytes
  errorDescription : Bytes
  errorUri : Bytes

/-- The longest lifetime in seconds that is taken at its word. -/
def maxLifetime : Int := 2147483647

/-- A lifetime in seconds, written as a number or as a string that holds one. A larger one than
can be kept is cut, and one far below zero wraps around. -/
def readLifetime (old : Int) : Json → Option Int
  | .null => some old
  | .number l => lifetime l
  | .string l =>
    let s := Json.unquote l
    match Json.number? s with
    | some (_, []) => lifetime s
    | _ => none
  | _ => none
where
  /-- The lifetime that a numeral stands for. -/
  lifetime (s : Bytes) : Option Int :=
    ((Numeral.integer s).toOption).map fun n =>
      if maxLifetime < n then maxLifetime else n.bmod 0x100000000

/-- The expiry of a token with a lifetime in seconds; none for a lifetime of zero. -/
def expiryAfter (now : Instant) (seconds : Int) : Instant :=
  if seconds = 0 then Instant.unset
  else now.laterNanos (Numeral.wrap (seconds * 1000000000))

/-- The members of a token document. -/
structure TokenDocument where
  accessToken : Bytes := []
  tokenType : Bytes := []
  refreshToken : Bytes := []
  lifetime : Int := 0
  errorCode : Bytes := []
  errorDescription : Bytes := []
  errorUri : Bytes := []

def readDocument : Json → Option TokenDocument :=
  Json.toRecord
    [("access_token", fun d j => (j.toText d.accessToken).map fun v => { d with accessToken := v }),
      ("token_type", fun d j => (j.toText d.tokenType).map fun v => { d with tokenType := v }),
      ("refresh_token",
        fun d j => (j.toText d.refreshToken).map fun v => { d with refreshToken := v }),
      ("expires_in", fun d j => (readLifetime d.lifetime j).map fun v => { d with lifetime := v }),
      ("error", fun d j => (j.toText d.errorCode).map fun v => { d with errorCode := v }),
      ("error_description",
        fun d j => (j.toText d.errorDescription).map fun v => { d with errorDescription := v }),
      ("error_uri", fun d j => (j.toText d.errorUri).map fun v => { d with errorUri := v })]
    {}

def memberText? (name : String) (j : Json) : Option Bytes :=
  match Json.lookup? name j with
  | some (.string l) => some (Json.unquote l)
  | _ => none

/-- The answer of a token page in a document. -/
def replyOfJson (now : Instant) (body : Bytes) : Option GrantReply := do
  let j ← Json.parse? body
  let d ← readDocument j
  let token : Token :=
    ⟨d.accessToken, d.tokenType, d.refreshToken, expiryAfter now d.lifetime, d.lifetime⟩
  pure ⟨⟨token, memberText? "scope" j⟩, d.errorCode, d.errorDescription, d.errorUri⟩

/-- A lifetime in a query; one that does not fit is as large as possible, and one that is no
number is zero. -/
def queryLifetime (s : Bytes) : Int :=
  match Numeral.integer s with
  | .ok n => n
  | .error .badSyntax => 0
  | .error .outOfRange =>
    if s.head? = some (byte '-') then -0x8000000000000000 else 0x7fffffffffffffff

/-- A scope in a query is a text, unless it reads as a number. -/
def queryScope? (s : Bytes) : Option Bytes :=
  let trimmed := Blank.trim s
  match trimmed.count (byte '.') with
  | 0 => if (Numeral.integer trimmed).toOption.isSome then none else some s
  | 1 => if (Numeral.binary64 trimmed).toOption.isSome then none else some s
  | _ => some s

/-- The answer of a token page in a query. -/
def replyOfQuery (now : Instant) (ps : Query.Params) : GrantReply :=
  let get (name : String) : Bytes := Query.get ps name
  let token : Token :=
    ⟨get "access_token", get "token_type", get "refresh_token",
      expiryAfter now (queryLifetime (get "expires_in")), 0⟩
  ⟨⟨token, queryScope? (get "scope")⟩, get "error", get "error_description", get "error_uri"⟩

/-- Reads the answer of a token page. -/
def readGrant (now : Instant) (reply : Http.Reply) (body : Bytes) : Except GrantError Grant := do
  let failed := reply.status < 200 ∨ 299 < reply.status
  let media := MediaType.ofContentType (reply.header "Content-Type")
  let r ← if media = utf8 "application/x-www-form-urlencoded" ∨ media = utf8 "text/plain" then
      match Query.parseStrict body with
      | .ok ps => pure (replyOfQuery now ps)
      | .error f => throw (if failed then .status reply.status body else .badQuery f)
    else
      match replyOfJson now body with
      | some r => pure r
      | none => throw (if failed then .status reply.status body else .malformed)
  -- An error that the page states counts also where the status means success.
  if r.errorCode ≠ [] then throw (.rejected r.errorCode r.errorDescription r.errorUri)
  if failed then throw (.status reply.status body)
  if r.grant.token.accessToken = [] then throw .noAccessToken
  return r.grant

/-- The request to a token page, in a style of identification. -/
def grantRequest (id : Identity) (style : Int) (params : Query.Params) :
    Except Url.ParseError Http.Request :=
  (Url.parse id.endpoint.tokenUrl).map fun u =>
    let named (name : String) (value : Bytes) : Query.Params :=
      if value = [] then [] else [(utf8 name, value)]
    let form := if style = 1 then
        params ++ named "client_id" id.clientId ++ named "client_secret" id.clientSecret
      else params
    let authorization := if style = 2 then
        some (Http.basicAuthorization (Url.escape .query id.clientId)
          (Url.escape .query id.clientSecret))
      else none
    ⟨"POST", u.withoutEmptyPort,
      { authorization := authorization, contentType := some "application/x-www-form-urlencoded" },
      some (Query.sort form)⟩

/-- How much of an answer is read. -/
def maxGrantBody : Nat := 1048576

/-- One exchange with a token page. -/
def exchangeOnce (listens : Bool) (id : Identity) (style : Int) (params : Query.Params) (h : Host) :
    Except GrantError Grant × Host :=
  match grantRequest id style params with
  | .error e => (.error (.badUrl e), h)
  | .ok r =>
    match Http.run (Http.plain listens) r h with
    | (.error e, h) => (.error (.client e), h)
    | (.ok reply, h) =>
      match Http.readBody (some maxGrantBody) reply h with
      | (.error f, h) => (.error (.body f), h)
      | (.ok body, h) => (readGrant h.now reply body, h)

/-- The identity with the style that worked. -/
def Identity.withStyle (id : Identity) (style : Int) : Identity :=
  { id with endpoint := { id.endpoint with style := style } }

/-- Exchanges parameters for a token, in the known style or in both in turn. -/
def exchange (listens : Bool) (id : Identity) (params : Query.Params) (h : Host) :
    Except GrantError (Grant × Identity) × Host :=
  if id.endpoint.style ≠ 0 then
    let (r, h) := exchangeOnce listens id id.endpoint.style params h
    (r.map (·, id), h)
  else
    -- Neither style is tried at an address that cannot be read.
    match grantRequest id 2 params with
    | .error e => (.error (.badUrl e), h)
    | .ok _ =>
      match exchangeOnce listens id 2 params h with
      | (.ok g, h) => (.ok (g, id.withStyle 2), h)
      -- Whatever went wrong, cancellation included, the other style is tried.
      | (.error _, h) =>
        let (r, h) := exchangeOnce listens id 1 params h
        (r.map (·, id.withStyle 1), h)

/-- Renews a token. A provider that gives no new refresh token means the old one. -/
def renew (listens : Bool) (id : Identity) (refreshToken : Bytes) (h : Host) :
    Except GrantError (Token × Identity) × Host :=
  if refreshToken = [] then (.error .noRefreshToken, h)
  else
    let params := [(utf8 "grant_type", utf8 "refresh_token"), (utf8 "refresh_token", refreshToken)]
    match exchange listens id params h with
    | (.error e, h) => (.error e, h)
    | (.ok (g, id), h) =>
      let t := g.token
      let kept := if t.refreshToken = [] then { t with refreshToken := refreshToken } else t
      (.ok (kept, id), h)

/-- Exchanges an authorization code for a token. -/
def redeem (id : Identity) (code verifier : Bytes) (h : Host) : Except GrantError Grant × Host :=
  let redirect := if id.redirectUrl = [] then [] else [(utf8 "redirect_uri", id.redirectUrl)]
  let params := [(utf8 "grant_type", utf8 "authorization_code"), (utf8 "code", code)] ++ redirect ++
    [(utf8 "code_verifier", verifier)]
  let (r, h) := exchange true id params h
  (r.map (·.1), h)

/-- The scopes that were granted: what the provider says, or else what was asked for. -/
def grantedScopes (scope : Option Bytes) (requested : Option (List Bytes)) : Option (List Bytes) :=
  match scope with
  | some s => if Blank.trim s = [] then requested else some (Blank.fields s)
  | none => requested

end DocPull.Auth
