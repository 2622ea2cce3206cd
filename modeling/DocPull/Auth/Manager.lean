import DocPull.Auth.Error
import DocPull.Text.Sha256

/-!
# Obtaining credentials

A manager looks after one token file and one set of scopes. It uses the saved credential while it
is valid, renews it when it has expired, and asks the user when nothing usable is saved. Whatever
it returns is saved first.
-/
namespace DocPull.Auth

structure Options where
  tokenPath : Bytes
  scopes : List Bytes
  clientSecretPath : Bytes := []
  clientId : Bytes := []
  clientSecret : Bytes := []
  /-- The provider's pages, when they are not the default ones. -/
  endpoint : Option Endpoint := none
  deriving DecidableEq, Repr

/-- Options that name a token file and ask for something. -/
def Options.check (o : Options) : Except Error Options :=
  if o.tokenPath = [] then .error .noTokenPath
  else if o.scopes = [] then .error .noScopes
  else .ok o

/-- The client's identity. An explicit id wins over a file. -/
def identity (o : Options) (t : Files.Tree) : Except Error Identity := do
  let id ← if o.clientId ≠ [] then
      pure ⟨o.clientId, o.clientSecret, [], o.scopes, googleEndpoint⟩
    else if o.clientSecretPath = [] then throw (.identity .notConfigured)
    else
      match t.read o.clientSecretPath with
      | .error e => throw (.identity (.unreadable e))
      | .ok content => (readIdentity o.clientSecretPath content o.scopes).mapError .identity
  return { id with endpoint := o.endpoint.getD id.endpoint }

/-- Loads the saved credential and classifies it. -/
def inspect (o : Options) (h : Host) : Except Error (State × Option Credential) × Host :=
  match TokenFile.load h.tree o.tokenPath with
  | .error e => (.error (.credentialFile e), h)
  | .ok none =>
    (.ok (.absent, none), h.log .debug "no saved credential" [("path", .text o.tokenPath)])
  | .ok (some c) =>
    let h := if c.covers o.scopes then h
      else h.log .info "saved credential does not cover required scopes"
        [("path", .text o.tokenPath), ("granted", .text (Bytes.join " " (c.scopes.getD [])))]
    (.ok (c.state o.scopes h.now, some c), h)

def saveTo (path : Bytes) (c : Credential) (h : Host) : Except TokenFile.Error Unit × Host :=
  let written := TokenFile.save h.tree path (some c.token) c.scopes h.entropy.digits
  (written.result, { h with tree := written.final h.tree })

def refresh (o : Options) (c : Credential) (h : Host) : Except Error Credential × Host :=
  match identity o h.tree with
  | .error e => (.error e, h)
  | .ok id =>
    let h := h.log .info "refreshing expired token" [("expired_at", .time c.token.expiry)]
    match renew true id c.token.refreshToken h with
    | (.error e, h) => (.error (.refreshing e), h)
    | (.ok (t, _), h) =>
      (.ok ⟨t, c.scopes⟩, h.log .info "token refreshed" [("new_expiry", .time t.expiry)])

/-- The consent page, opened for a login. The challenge is the digest of the verifier, so that
only its owner can redeem the code. -/
def consentUrl (id : Identity) (state verifier : Bytes) : Bytes :=
  let given (name : String) (value : Bytes) : Query.Params :=
    if value = [] then [] else [(utf8 name, value)]
  let params : Query.Params :=
    [(utf8 "response_type", utf8 "code"), (utf8 "client_id", id.clientId)] ++
      given "redirect_uri" id.redirectUrl ++
      (if id.scopes = [] then [] else [(utf8 "scope", Bytes.join " " id.scopes)]) ++
      given "state" state ++
      [(utf8 "access_type", utf8 "offline"), (utf8 "code_challenge_method", utf8 "S256"),
        (utf8 "code_challenge", Base64.encodeUrl (Sha256.digest verifier))]
  let url := id.endpoint.authUrl
  text [url, if url.contains (byte '?') then "&" else "?", Query.write params]

/-- The user visits the consent page: the callbacks are answered, and then the user waits or gives
up. A listener that cannot accept answers none. -/
def visitPage (url state : Bytes) (h : Host) : Host :=
  let reached := match h.listener with
    | .cannotAccept _ => []
    | _ => h.visit.callbacks
  let h := { h with consents := ⟨url, reached.map (pageFor state)⟩ :: h.consents }
  match h.visit.ending with
  | .waits => h
  | .cancels => h.cancel
  | .interrupts =>
    (h.log .info "received signal, canceling" [("signal", .text "interrupt")]).cancel

/-- Prints the consent page for the user to visit. -/
def promptFor (url : Bytes) (h : Host) : Host :=
  h.display (.prompt (text ["Please visit this URL to authorize this application:\n", url, "\n"]))

/-- Opens the consent page in a browser, or prints it. -/
def launchBrowser (url state : Bytes) (h : Host) : Host :=
  let opening := "opening browser for authorization"
  let failing := "failed to open browser, printing URL"
  match h.launch with
  | .unavailable => visitPage url state (promptFor url h)
  | .opens => visitPage url state (h.log .info opening [])
  -- The program goes on while the browser starts, so the callbacks come first.
  | .opensAndFails m =>
    promptFor url ((visitPage url state (h.log .info opening [])).log .warn failing
      [("error", .text m)])
  | .fails m =>
    visitPage url state (promptFor url ((h.log .info opening []).log .warn failing
      [("error", .text m)]))

/-- What the login got: the result of the first callback that was taken, a broken listener, or
nothing before it was given up. -/
def awaitCode (state : Bytes) (h : Host) : Except Error Bytes :=
  match h.listener with
  | .cannotAccept m => .error (.server m)
  | _ =>
    match firstResult? state h.visit.callbacks with
    | some r => r.mapError .callback
    | none => .error .canceled

/-- The address that the browser is sent back to. -/
def redirectUrl (port : Nat) : Bytes := text ["http://localhost:", Bytes.decimal port, "/"]

/-- Asks the user to grant access. -/
def authorize (o : Options) (h : Host) : Except Error Credential × Host :=
  match identity o h.tree with
  | .error e => (.error e, h)
  | .ok id =>
    let h := h.log .info "starting interactive authorization" [("path", .text o.tokenPath)]
    match h.listener with
    | .cannotBind m => (.error (.listener m), h)
    | .wrongAddress => (.error .listenerAddress, h)
    | _ =>
      let h := h.log .info "callback server listening" [("port", .integer h.entropy.port)]
      -- The port is the one that was free, not one that the provider knows beforehand.
      let id := { id with redirectUrl := redirectUrl h.entropy.port }
      let state := h.entropy.state
      let verifier := h.entropy.verifier
      let h := launchBrowser (consentUrl id state verifier) state h
      match awaitCode state h with
      | .error e => (.error e, h)
      | .ok code =>
        let h := h.log .info "received authorization code, exchanging for token" []
        match redeem id code verifier h with
        | (.error e, h) => (.error (.redeeming e), h)
        | (.ok g, h) =>
          let h := h.log .info "token exchange successful" [("expiry", .time g.token.expiry)]
          -- What was granted is not compared with what was asked for.
          (.ok ⟨g.token, grantedScopes g.scope (some o.scopes)⟩, h)

/-- A usable credential for each state of the saved one. -/
def usable (o : Options) (state : State) (saved : Option Credential) (h : Host) :
    Except Error Credential × Host :=
  match state, saved with
  | .valid, some c => (.ok c, h)
  | .expired, some c => refresh o c h
  | _, _ => authorize o h

/-- A usable credential, saved to the token file. -/
def obtain (o : Options) (h : Host) : Except Error Credential × Host :=
  match inspect o h with
  | (.error e, h) => (.error e, h)
  | (.ok (state, saved), h) =>
    let h := h.log .info "saved credential inspected"
      [("path", .text o.tokenPath), ("state", .text state.name)]
    match usable o state saved h with
    | (.error e, h) => (.error e, h)
    | (.ok c, h) =>
      -- A credential that was valid is written again as well.
      match saveTo o.tokenPath c h with
      | (.error e, h) => (.error (.saving e), h)
      | (.ok _, h) =>
        (.ok c, h.log .info "credential ready"
          [("path", .text o.tokenPath), ("expiry", .time c.token.expiry)])

def logout (o : Options) (h : Host) : Except Error Unit × Host :=
  match TokenFile.remove h.tree o.tokenPath with
  | .error e => (.error (.logout e), h)
  | .ok t =>
    (.ok (), { h with tree := t }.log .info "logout: token file removed"
      [("path", .text o.tokenPath)])

end DocPull.Auth
