import DocPull.Auth.Manager

/-!
# Authorized requests

A source renews its token when it has expired, and writes every new token back to the token file
before it is used. A failed write does not fail the request; the next one tries again.
-/
namespace DocPull.Auth

/-- The source of tokens for a credential. Without a client identity the token is served as it
is. -/
def sourceFor (o : Options) (listens : Bool) (c : Credential) (h : Host) : Source × Host :=
  match identity o h.tree with
  | .error e =>
    (.fixed c.token, h.log .warn "client credentials unavailable, token will not be refreshed"
      [("error", .text (Failure.message e))])
  | .ok id =>
    (.renewing ⟨id, c.token, c.token.refreshToken, c.token.accessToken, c.scopes, o.tokenPath,
      listens⟩, h)

/-- The token in use, renewed when it has expired. -/
def Renewal.current? (r : Renewal) (h : Host) : Except GrantError Renewal × Host :=
  if r.current.isValid h.now then (.ok r, h)
  else
    match renew r.listens r.identity r.refreshToken h with
    | (.error e, h) => (.error e, h)
    | (.ok (t, id), h) =>
      (.ok { r with identity := id, current := t, refreshToken := t.refreshToken }, h)

/-- Writes a token back that the file does not hold yet. -/
def Renewal.persist (r : Renewal) (h : Host) : Renewal × Host :=
  -- A renewal that changes everything but the access token is not written back.
  if r.current.accessToken = r.saved then (r, h)
  else
    let h := h.log .info "token refreshed by oauth2 library"
      [("path", .text r.path), ("new_expiry", .time r.current.expiry)]
    match saveTo r.path ⟨r.current, r.scopes⟩ h with
    -- The token is served all the same.
    | (.error e, h) =>
      (r, h.log .warn "failed to persist refreshed token"
        [("path", .text r.path), ("error", .text e.message)])
    | (.ok _, h) => ({ r with saved := r.current.accessToken }, h)

def Source.token (s : Source) (h : Host) : Except Error Token × Source × Host :=
  match s with
  | .fixed t => (.ok t, s, h)
  | .renewing r =>
    match r.current? h with
    | (.error e, h) =>
      (.error (.renewing e), s,
        h.log .warn "token acquisition failed" [("error", .text (Failure.message e))])
    | (.ok r, h) =>
      let (r, h) := r.persist h
      (.ok r.current, .renewing r, h)

/-- A token for the next request: the last one while it can be used, or else a new one. -/
def Session.token (s : Session) (h : Host) : Except Error Token × Session × Host :=
  match s.cached.filter fun t => t.isValid h.now with
  | some t => (.ok t, s, h)
  | none =>
    match s.source.token h with
    | (.error e, source, h) => (.error e, { s with source := source }, h)
    | (.ok t, source, h) => (.ok t, ⟨source, some t⟩, h)

def openSession (o : Options) (listens : Bool) (c : Credential) (h : Host) : Host :=
  let (source, h) := sourceFor o listens c h
  { h with session := some ⟨source, none⟩ }

def send (listens : Bool) : Http.Transport Host Error := fun r h =>
  match h.session with
  | none => Http.plain listens r h
  | some s =>
    match s.token h with
    | (.error e, s, h) => (.error (.refused e), { h with session := some s })
    | (.ok t, s, h) =>
      let h := { h with session := some s }
      let headers := { r.headers with authorization := some t.authorization }
      Http.plain listens { r with headers := headers } h

end DocPull.Auth
