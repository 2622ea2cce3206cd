import DocPull.Proofs.Auth.Exchange
import DocPull.Proofs.Auth.Obtain
import DocPull.Proofs.Auth.Unattended

/-!
# Which callback decides a login

A login sends a code only if the first callback that reaches the handler grants it: with the state
of the login, without an error and with a code. A saved credential that is valid or expired is never
a reason to send one.
-/
namespace DocPull.Auth

open Http

/-- Whether a callback grants a code to a login: its query has the login's state, reports no error
and carries the code. -/
structure Grants (state query code : Bytes) : Prop where
  sameState : Query.get (Query.parse query) "state" = state
  noError : Query.get (Query.parse query) "error" = []
  sameCode : Query.get (Query.parse query) "code" = code
  nonempty : code ≠ []

theorem handleCallback_eq_ok {state query code : Bytes} :
    (handleCallback state query).2 = .ok code ↔ Grants state query code := by
  unfold handleCallback
  dsimp only
  constructor
  · intro h
    split_ifs at h with hstate herror hcode
    cases h
    exact ⟨not_not.mp hstate, not_not.mp herror, rfl, hcode⟩
  · rintro ⟨hstate, herror, rfl, hcode⟩
    rw [if_neg (not_not.mpr hstate), if_neg (not_not.mpr herror), if_neg hcode]

/-- What the query of the first routed callback decides: the requests that the login makes carry no
code but the one it grants, which is sent if the token page has an address, and nothing is sent if
it grants none. -/
structure Decided (id : Identity) (query : Bytes) (h : Host)
    (r : Except Error Credential × Host) (new : List Request) : Prop where
  sent : r.2.wire.sent = new ++ h.wire.sent
  only : ∀ q ∈ new, ∀ code, CarriesCode q code → Grants h.entropy.state query code
  granted : ∀ code u, Grants h.entropy.state query code →
    Url.parse id.endpoint.tokenUrl = .ok u → ∃ q ∈ new, CarriesCode q code
  refused : (∀ code, ¬Grants h.entropy.state query code) →
    new = [] ∧ ∃ e, r.1 = .error e ∧ Failure.isA e .authorization = true

section Decided

variable {o : Options} {h : Host} {id : Identity} {query : Bytes}

theorem awaitCode_of_first {state : Bytes} (hlistener : h.listener = .works)
    (hfirst : h.visit.callbacks.findSome? (Callback.handled? state) = some query) :
    awaitCode state h = (handleCallback state query).2.mapError .callback := by
  rw [awaitCode, hlistener, firstResult?, hfirst]
  rfl

theorem redeemed_wire (o : Options) (r : Except GrantError Grant × Host) :
    (redeemed o r).2.wire = r.2.wire := by
  obtain ⟨e | g, h⟩ := r
  · rfl
  · rfl

/-- A login is decided by its first routed callback. -/
theorem authorize_decided (hid : identity o h.tree = .ok id) (hlistener : h.listener = .works)
    (hfirst : h.visit.callbacks.findSome? (Callback.handled? h.entropy.state) = some query) :
    ∃ new, Decided id query h (authorize o h) new := by
  have hsent : (opened o id h).wire.sent = h.wire.sent := by
    obtain ⟨canceled, console, consents, hopened⟩ := opened_onlyShown o id h
    rw [hopened]
  rw [authorize_eq hid, hlistener, awaitCode_opened, awaitCode_of_first hlistener hfirst]
  dsimp only
  cases hresult : (handleCallback h.entropy.state query).2 with
  | error e =>
    have hnone : ∀ code, ¬Grants h.entropy.state query code := by
      intro code hgrants
      rw [handleCallback_eq_ok.mpr hgrants] at hresult
      cases hresult
    refine ⟨[], hsent, by simp, fun code u hgrants => absurd hgrants (hnone code), fun _ => ?_⟩
    exact ⟨rfl, .callback e, rfl, rfl⟩
  | ok code =>
    have hgrants : Grants h.entropy.state query code := handleCallback_eq_ok.mp hresult
    dsimp only [Except.mapError]
    generalize hstart : (opened o id h).log .info
      "received authorization code, exchanging for token" [] = start
    have hstarted : start.wire.sent = h.wire.sent := hstart ▸ hsent
    obtain ⟨new, hnew, honly⟩ :=
      (redeem_exchanged (asking id h) code h.entropy.verifier start).advances.sent
    refine ⟨new, ?_, ?_, ?_, fun hnone => absurd hgrants (hnone code)⟩
    · rw [redeemed_wire, hnew, hstarted]
    · intro q hq sent hcarries
      rw [honly q hq sent hcarries]
      exact hgrants
    · intro code' u hgrants' hurl
      have hcode : code' = code := by rw [← hgrants'.sameCode, hgrants.sameCode]
      subst hcode
      have hurl' : Url.parse (asking id h).endpoint.tokenUrl = .ok u := hurl
      obtain ⟨q, hcarries, hrecord⟩ := redeem_sends hurl' code' h.entropy.verifier start
      rw [hnew] at hrecord
      refine ⟨q, ?_, hcarries⟩
      -- The request is on record right before those that were made earlier, so it is a new one.
      obtain ⟨later, hlater⟩ := hrecord
      rw [← List.append_cancel_right ((List.append_assoc later [q] _).trans hlater)]
      simp

/-- So is obtaining, when nothing usable is saved. -/
theorem obtain_decided {saved : Option Credential} (hi : (inspect o h).1 = .ok (.absent, saved))
    (hid : identity o h.tree = .ok id) (hlistener : h.listener = .works)
    (hfirst : h.visit.callbacks.findSome? (Callback.handled? h.entropy.state) = some query) :
    ∃ new, Decided id query h (obtain o h) new := by
  obtain ⟨console, hready⟩ := inspected_console o .absent h
  obtain ⟨new, hsent, honly, hgranted, hrefused⟩ : ∃ new, Decided id query
      { h with console := console } (authorize o { h with console := console }) new :=
    authorize_decided hid hlistener hfirst
  rw [obtain_eq_kept hi, usable_absent, hready]
  refine ⟨new, ?_, honly, hgranted, fun hnone => ?_⟩
  · rw [kept_wire, hsent]
  · obtain ⟨hnil, e, he, hkind⟩ := hrefused hnone
    refine ⟨hnil, e, ?_, hkind⟩
    rw [show authorize o { h with console := console } = (.error e, _) from Prod.ext he rfl]
    rfl

end Decided

/-- A credential that is valid or expired is found without sending a code. -/
theorem usable_advances (o : Options) {state : State} (hstate : state ≠ .absent) (c : Credential)
    (h : Host) :
    Advances (fun q => ∀ code, ¬CarriesCode q code) h.wire (usable o state (some c) h).2.wire := by
  cases state with
  | absent => exact absurd rfl hstate
  | valid => exact .refl h.wire
  | expired =>
    change Advances _ h.wire (refresh o c h).2.wire
    unfold refresh
    obtain e | id := identity o h.tree
    · exact .refl h.wire
    · have hrenew := renew_advances true id c.token.refreshToken
        (h.log .info "refreshing expired token" [("expired_at", .time c.token.expiry)])
      dsimp only
      generalize renew true id c.token.refreshToken _ = got at hrenew
      obtain ⟨e | ⟨t, id'⟩, h₁⟩ := got
      · exact hrenew
      · exact hrenew

/-- With a credential that is valid or expired, no page is shown. -/
theorem obtain_consents {o : Options} {h : Host} {state : State} {saved : Option Credential}
    (hi : (inspect o h).1 = .ok (state, saved)) (hstate : state ≠ .absent) :
    (obtain o h).2.consents = h.consents := by
  -- The world with its own user in front of it is the same world.
  have hself := obtain_facing hi hstate ⟨h.launch, h.visit, h.listener, h.consents⟩
  exact congrArg (fun r => r.2.consents) hself

/-- And no code is sent. -/
theorem obtain_sends_no_code {o : Options} {h : Host} {state : State} {saved : Option Credential}
    (hi : (inspect o h).1 = .ok (state, saved)) (hstate : state ≠ .absent) :
    ∃ new, (obtain o h).2.wire.sent = new ++ h.wire.sent ∧
      ∀ q ∈ new, ∀ code, ¬CarriesCode q code := by
  obtain ⟨console, hready⟩ := inspected_console o state h
  obtain ⟨-, habsent⟩ | ⟨c, rfl, -, -⟩ := inspect_state hi
  · exact absurd habsent hstate
  · obtain ⟨new, hnew, hnone⟩ := (usable_advances o hstate c (inspected o state h)).sent
    refine ⟨new, ?_, hnone⟩
    rw [obtain_eq_kept hi, kept_wire, hnew, hready]

/-- Before the first routed callback there may be any others that are not routed. -/
theorem findSome?_first {state query : Bytes} {before : List Callback} {first : Callback}
    (hbefore : ∀ c ∈ before, Callback.handled? state c = none)
    (hfirst : Callback.handled? state first = some query) (rest : List Callback) :
    (before ++ first :: rest).findSome? (Callback.handled? state) = some query := by
  rw [List.findSome?_append, List.findSome?_eq_none_iff.mpr hbefore, Option.none_or,
    List.findSome?_cons, hfirst]

/-- A login sends a code only if the query of the first callback that is routed to the handler
grants it; if that one grants none, the login is a failed authorization and sends nothing. Whatever
comes after it makes no difference. No page is shown and no code is sent for a credential that is
valid or expired, and nothing that the user does makes a difference there. -/
theorem obtain_first_callback_decides (o : Options) :
    (∀ (h : Host) saved id before first rest query, (inspect o h).1 = .ok (.absent, saved) →
      identity o h.tree = .ok id → h.listener = .works →
      h.visit.callbacks = before ++ first :: rest →
      (∀ c ∈ before, Callback.handled? h.entropy.state c = none) →
      Callback.handled? h.entropy.state first = some query →
      ∃ new, Decided id query h (obtain o h) new) ∧
    (∀ (h : Host) before first rest rest' ending,
      (∀ c ∈ before, Callback.handled? h.entropy.state c = none) →
      (Callback.handled? h.entropy.state first).isSome = true →
      let run := obtain o { h with visit := ⟨before ++ first :: rest, ending⟩ }
      let run' := obtain o { h with visit := ⟨before ++ first :: rest', ending⟩ }
      run'.1 = run.1 ∧ run'.2.tree = run.2.tree ∧ run'.2.wire = run.2.wire) ∧
    (∀ h state saved, (inspect o h).1 = .ok (state, saved) → state ≠ .absent →
      (obtain o h).2.consents = h.consents ∧
      (∀ s, obtain o (h.facing s) = ((obtain o h).1, (obtain o h).2.facing s)) ∧
      ∃ new, (obtain o h).2.wire.sent = new ++ h.wire.sent ∧
        ∀ q ∈ new, ∀ code, ¬CarriesCode q code) := by
  refine ⟨?_, ?_, ?_⟩
  · intro h saved id before first rest query hi hid hlistener hcallbacks hbefore hfirst
    refine obtain_decided hi hid hlistener ?_
    rw [hcallbacks]
    exact findSome?_first hbefore hfirst rest
  · intro h before first rest rest' ending hbefore hrouted run run'
    obtain ⟨query, hfirst⟩ := Option.isSome_iff_exists.mp hrouted
    have hagrees : Agrees ⟨h.launch, ⟨before ++ first :: rest', ending⟩, h.listener, h.consents⟩
        { h with visit := ⟨before ++ first :: rest, ending⟩ } := by
      refine ⟨rfl, rfl, rfl, ?_⟩
      rw [findSome?_first hbefore hfirst, findSome?_first hbefore hfirst]
    obtain ⟨s, hs⟩ := obtain_agrees o hagrees
    have hrun' : run' = (run.1, run.2.facing s) := hs
    rw [hrun']
    exact ⟨rfl, rfl, rfl⟩
  · intro h state saved hi hstate
    exact ⟨obtain_consents hi hstate, obtain_facing hi hstate, obtain_sends_no_code hi hstate⟩

/-- Two callbacks that are not routed, one that grants a code, one that grants another code, and one
of another login. -/
def posted : Callback := ⟨"POST", fun state => text ["/?code=p&state=", state], 80⟩
def unclean : Callback := ⟨"GET", fun state => text ["//?code=u&state=", state], 80⟩
def granting : Callback := ⟨"GET", fun state => text ["/?code=c&state=", state], 80⟩
def late : Callback := ⟨"GET", fun state => text ["/?code=d&state=", state], 80⟩
def forged : Callback := ⟨"GET", fun _ => "/?code=e&state=x", 80⟩

/-- A login with nothing saved, and with these callbacks. -/
def loginWith (callbacks : List Callback) : Host :=
  { sampleLogin .works 0 with visit := ⟨callbacks, .waits⟩ }

/-- The world long after such a login: the saved token has expired and the token page is down. -/
def lapsedLogin : Host :=
  { loginWith [late] with
    tree := (obtain sampleOptions (loginWith [granting])).2.tree
    wire := .ofAnswers [.failure "down"] false
    now := ⟨4000, 0, 0⟩ }

/-- The granted code is sent and no other, also with a later callback; after a forged callback none
is sent; and none is sent when a saved token cannot be renewed. -/
theorem loginWith_decided :
    (∃ q ∈ (obtain sampleOptions (loginWith [posted, unclean, granting])).2.wire.sent,
      CarriesCode q "c") ∧
    (∀ q ∈ (obtain sampleOptions (loginWith [posted, unclean, granting, late])).2.wire.sent,
      ∀ code, CarriesCode q code → code = "c") ∧
    ((obtain sampleOptions (loginWith [forged, granting])).2.wire.sent = [] ∧
      ∃ e, (obtain sampleOptions (loginWith [forged, granting])).1 = .error e ∧
        Failure.isA e .authorization = true) ∧
    ((obtain sampleOptions lapsedLogin).2.wire.sent.length = 1 ∧
      ∀ q ∈ (obtain sampleOptions lapsedLogin).2.wire.sent, ∀ code, ¬CarriesCode q code) := by
  obtain ⟨hfirst, hlater, hsaved⟩ := obtain_first_callback_decides sampleOptions
  have hid : identity sampleOptions .empty =
      .ok ⟨"id", [], [], ["drive"], ⟨"http://idp/auth", "http://idp/token", 1⟩⟩ := by decide
  have hparse : (Url.parse "http://idp/token").toOption.isSome = true := by decide +kernel
  obtain ⟨u, hu⟩ := Option.isSome_iff_exists.mp hparse
  have hgrants : Grants "s" "code=c&state=s" "c" := by constructor <;> decide +kernel
  have hnone : ∀ code, ¬Grants "s" "code=e&state=x" code :=
    fun code hcode => absurd hcode.sameState (by decide +kernel)
  have hbefore : ∀ c ∈ [posted, unclean], Callback.handled? "s" c = none := by
    simp only [List.forall_mem_cons]
    exact ⟨by decide +kernel, by decide +kernel, nofun⟩
  have hrouted : Callback.handled? "s" granting = some (utf8 "code=c&state=s") := by decide +kernel
  obtain ⟨new, hgranted⟩ := hfirst (loginWith [posted, unclean, granting]) none _
    [posted, unclean] granting [] _ (by decide +kernel) hid rfl rfl hbefore hrouted
  have hnew : (obtain sampleOptions (loginWith [posted, unclean, granting])).2.wire.sent = new :=
    hgranted.sent.trans (List.append_nil new)
  have hwire : (obtain sampleOptions (loginWith [posted, unclean, granting, late])).2.wire =
      (obtain sampleOptions (loginWith [posted, unclean, granting])).2.wire :=
    (hlater (loginWith []) [posted, unclean] granting [] [late] .waits hbefore
      (Option.isSome_of_eq_some hrouted)).2.2
  refine ⟨?_, ?_, ?_, ?_⟩
  · rw [hnew]
    exact hgranted.granted _ u hgrants (Outcome.toOption_eq_some.mp hu)
  · rw [hwire, hnew]
    intro q hq code hcarries
    exact (hgranted.only q hq code hcarries).sameCode.symm.trans hgrants.sameCode
  · obtain ⟨sent, hrefused⟩ := hfirst (loginWith [forged, granting]) none _ [] forged [granting]
      "code=e&state=x" (by decide +kernel) hid rfl rfl nofun (by decide +kernel)
    obtain ⟨rfl, hfailed⟩ := hrefused.refused hnone
    exact ⟨hrefused.sent, hfailed⟩
  · obtain ⟨-, -, sent, hsent, hcodes⟩ := hsaved lapsedLogin .expired (some (sampleCredential 0))
      (by decide +kernel) (by decide)
    have hall : (obtain sampleOptions lapsedLogin).2.wire.sent = sent :=
      hsent.trans (List.append_nil sent)
    refine ⟨by decide +kernel, ?_⟩
    rw [hall]
    exact hcodes

end DocPull.Auth
