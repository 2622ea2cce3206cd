import DocPull.Proofs.Auth.TokenPage
import DocPull.Proofs.Auth.Ways

/-!
# What depends on the user

Only a login looks at the user's part of the world: the browser, the callbacks and the listener.
Everything else does the same whatever the user does. A login in turn looks at the first callback
that reaches the handler and at no later one.
-/
namespace DocPull

/-- The user's part of the world. -/
structure Scene where
  launch : Launch
  visit : Visit
  listener : Listener
  consents : List Consent

/-- The world with another user in front of it. -/
def Host.facing (h : Host) (s : Scene) : Host :=
  { h with launch := s.launch, visit := s.visit, listener := s.listener, consents := s.consents }

namespace Auth

open Http

/-- Whether a computation goes the same way whatever the user does. -/
def Unattended {α : Type} (f : Host → α × Host) : Prop :=
  ∀ h s, f (h.facing s) = ((f h).1, (f h).2.facing s)

theorem display_facing (item : ConsoleItem) (h : Host) (s : Scene) :
    (h.facing s).display item = (h.display item).facing s := rfl

theorem log_facing (level : Log.Level) (message : String) (fields : List (String × Log.Value))
    (h : Host) (s : Scene) :
    (h.facing s).log level message fields = (h.log level message fields).facing s := rfl

theorem exchange_unattended (listens : Bool) (id : Identity) (params : Query.Params) :
    Unattended (exchange listens id params) := by
  intro h s
  obtain ⟨x, w, hx, hs⟩ := exchange_cases listens id params h
  rw [hx, Settled.eq (h := h.facing s) hs]
  rfl

theorem renew_unattended (listens : Bool) (id : Identity) (refreshToken : Bytes) :
    Unattended (renew listens id refreshToken) := by
  intro h s
  by_cases hempty : refreshToken = []
  · rw [renew, renew, if_pos hempty, if_pos hempty]
  · rw [renew_eq listens id hempty, renew_eq listens id hempty, exchange_unattended]

theorem redeem_unattended (id : Identity) (code verifier : Bytes) :
    Unattended (redeem id code verifier) := by
  intro h s
  unfold redeem
  dsimp only
  rw [exchange_unattended]

theorem inspect_unattended (o : Options) : Unattended (inspect o) := by
  intro h s
  have htree : (h.facing s).tree = h.tree := rfl
  unfold inspect
  rw [htree]
  obtain e | saved := TokenFile.load h.tree o.tokenPath
  · rfl
  · cases saved with
    | none => rfl
    | some c =>
      dsimp only
      split_ifs
      · rfl
      · rfl

theorem inspect_facing (o : Options) (h : Host) (s : Scene) :
    (inspect o (h.facing s)).1 = (inspect o h).1 := by
  rw [inspect_unattended]

theorem refresh_unattended (o : Options) (c : Credential) : Unattended (refresh o c) := by
  intro h s
  have htree : (h.facing s).tree = h.tree := rfl
  unfold refresh
  rw [htree]
  obtain e | id := identity o h.tree
  · rfl
  · dsimp only
    rw [log_facing, renew_unattended]
    obtain ⟨e | ⟨t, id'⟩, h₁⟩ := renew true id c.token.refreshToken
      (h.log .info "refreshing expired token" [("expired_at", .time c.token.expiry)])
    · rfl
    · rfl

theorem kept_facing (o : Options) (found : Except Error Credential × Host) (s : Scene) :
    kept o (found.1, found.2.facing s) = ((kept o found).1, (kept o found).2.facing s) := by
  obtain ⟨e | c, h⟩ := found
  · rfl
  · have hsave : saveTo o.tokenPath c (h.facing s) =
        ((saveTo o.tokenPath c h).1, (saveTo o.tokenPath c h).2.facing s) := rfl
    unfold kept
    dsimp only
    rw [hsave]
    obtain ⟨e | u, h₁⟩ := saveTo o.tokenPath c h
    · rfl
    · rfl

theorem inspected_facing (o : Options) (state : State) (h : Host) (s : Scene) :
    inspected o state (h.facing s) = (inspected o state h).facing s := by
  rw [inspected, inspect_unattended, log_facing]
  rfl

/-- A credential that is valid or expired is found without the user. -/
theorem usable_unattended (o : Options) {state : State} (hstate : state ≠ .absent)
    (c : Credential) : Unattended (usable o state (some c)) := by
  cases state with
  | absent => exact absurd rfl hstate
  | expired => exact refresh_unattended o c
  | valid => exact fun h s => rfl

/-- What is done with a credential that is valid or expired does not depend on the user. -/
theorem obtain_facing {o : Options} {h : Host} {state : State} {saved : Option Credential}
    (hi : (inspect o h).1 = .ok (state, saved)) (hstate : state ≠ .absent) (s : Scene) :
    obtain o (h.facing s) = ((obtain o h).1, (obtain o h).2.facing s) := by
  have hi' : (inspect o (h.facing s)).1 = .ok (state, saved) := (inspect_facing o h s).trans hi
  obtain ⟨-, habsent⟩ | ⟨c, rfl, -, -⟩ := inspect_state hi
  · exact absurd habsent hstate
  · rw [obtain_eq_kept hi, obtain_eq_kept hi', inspected_facing, usable_unattended o hstate,
      kept_facing]

/-- Whether another user is the same one as far as a login looks. -/
structure Agrees (s : Scene) (h : Host) : Prop where
  launch : s.launch = h.launch
  listener : s.listener = h.listener
  ending : s.visit.ending = h.visit.ending
  first : s.visit.callbacks.findSome? (Callback.handled? h.entropy.state) =
    h.visit.callbacks.findSome? (Callback.handled? h.entropy.state)

section Agrees

variable {o : Options} {h : Host} {s : Scene}

theorem Agrees.printed (hs : Agrees s h) (console : List ConsoleItem) :
    Agrees s { h with console := console } :=
  ⟨hs.launch, hs.listener, hs.ending, hs.first⟩

/-- The pages that are shown to another user are all that differs after the visit. -/
theorem visitPage_facing (url state : Bytes) (hending : s.visit.ending = h.visit.ending) :
    ∃ s', visitPage url state (h.facing s) = (visitPage url state h).facing s' := by
  have hvisit : (h.facing s).visit.ending = h.visit.ending := hending
  unfold visitPage
  dsimp only
  rw [hvisit]
  cases h.visit.ending with
  | waits => exact ⟨⟨s.launch, s.visit, s.listener, _⟩, rfl⟩
  | cancels => exact ⟨⟨s.launch, s.visit, s.listener, _⟩, rfl⟩
  | interrupts => exact ⟨⟨s.launch, s.visit, s.listener, _⟩, rfl⟩

theorem launchBrowser_facing (url state : Bytes) (hs : Agrees s h) :
    ∃ s', launchBrowser url state (h.facing s) = (launchBrowser url state h).facing s' := by
  have hlaunch : (h.facing s).launch = h.launch := hs.launch
  unfold launchBrowser promptFor
  dsimp only
  rw [hlaunch]
  cases h.launch with
  | unavailable =>
    dsimp only
    rw [display_facing]
    exact visitPage_facing url state hs.ending
  | opens =>
    dsimp only
    rw [log_facing]
    exact visitPage_facing url state hs.ending
  | opensAndFails m =>
    obtain ⟨s', hs'⟩ := visitPage_facing (h := h.log .info "opening browser for authorization" [])
      url state hs.ending
    refine ⟨s', ?_⟩
    dsimp only
    rw [log_facing, hs', log_facing, display_facing]
  | fails m =>
    dsimp only
    rw [log_facing, log_facing, display_facing]
    exact visitPage_facing url state hs.ending

/-- Showing the page decides nothing. -/
theorem awaitCode_opened (o : Options) (id : Identity) (state : Bytes) (h : Host) :
    awaitCode state (opened o id h) = awaitCode state h := by
  obtain ⟨canceled, console, consents, hopened⟩ := opened_onlyShown o id h
  rw [hopened]
  rfl

theorem awaitCode_facing (hs : Agrees s h) :
    awaitCode h.entropy.state (h.facing s) = awaitCode h.entropy.state h := by
  have hlistener : (h.facing s).listener = h.listener := hs.listener
  have hfirst : firstResult? h.entropy.state (h.facing s).visit.callbacks =
      firstResult? h.entropy.state h.visit.callbacks :=
    congrArg (Option.map _) hs.first
  unfold awaitCode
  rw [hlistener, hfirst]

theorem redeemed_facing (o : Options) (r : Except GrantError Grant × Host) (s : Scene) :
    redeemed o (r.1, r.2.facing s) = ((redeemed o r).1, (redeemed o r).2.facing s) := by
  obtain ⟨e | g, h⟩ := r
  · rfl
  · rfl

/-- A login comes to the same for both. -/
theorem authorize_facing (o : Options) (hs : Agrees s h) :
    ∃ s', authorize o (h.facing s) = ((authorize o h).1, (authorize o h).2.facing s') := by
  cases hid : identity o h.tree with
  | error e =>
    have hid' : identity o (h.facing s).tree = .error e := hid
    refine ⟨s, ?_⟩
    unfold authorize
    rw [hid, hid']
  | ok id =>
    have hid' : identity o (h.facing s).tree = .ok id := hid
    have hlistener : (h.facing s).listener = h.listener := hs.listener
    have hentropy : (h.facing s).entropy = h.entropy := rfl
    have hasking : asking id (h.facing s) = asking id h := rfl
    have hcode : awaitCode h.entropy.state (opened o id (h.facing s)) =
        awaitCode h.entropy.state (opened o id h) := by
      rw [awaitCode_opened, awaitCode_opened, awaitCode_facing hs]
    obtain ⟨s', hopened⟩ : ∃ s', opened o id (h.facing s) = (opened o id h).facing s' :=
      launchBrowser_facing _ _ (hs.printed _)
    rw [authorize_eq hid, authorize_eq hid', hlistener, hentropy, hasking, hcode, hopened]
    cases h.listener with
    | cannotBind m => exact ⟨s, rfl⟩
    | wrongAddress => exact ⟨s, rfl⟩
    | _ =>
      -- Both wait for a code behind the same page, and redeeming it does not look at the user.
      refine ⟨s', ?_⟩
      dsimp only
      cases awaitCode h.entropy.state (opened o id h) with
      | error e => rfl
      | ok code =>
        dsimp only
        rw [log_facing, redeem_unattended, redeemed_facing]

/-- Obtaining comes to the same for both: the result, the files, the requests and the log. -/
theorem obtain_agrees (o : Options) (hs : Agrees s h) :
    ∃ s', obtain o (h.facing s) = ((obtain o h).1, (obtain o h).2.facing s') := by
  cases hi : (inspect o h).1 with
  | error e =>
    have hi' : (inspect o (h.facing s)).1 = .error e := (inspect_facing o h s).trans hi
    refine ⟨s, ?_⟩
    rw [obtain_of_inspect_error hi, obtain_of_inspect_error hi', inspect_unattended]
  | ok found =>
    obtain ⟨state, saved⟩ := found
    by_cases hstate : state = .absent
    · subst hstate
      have hi' : (inspect o (h.facing s)).1 = .ok (.absent, saved) :=
        (inspect_facing o h s).trans hi
      obtain ⟨console, hready⟩ := inspected_console o .absent h
      have hagrees : Agrees s (inspected o .absent h) := by
        rw [hready]
        exact hs.printed console
      obtain ⟨s', hauthorize⟩ := authorize_facing o hagrees
      refine ⟨s', ?_⟩
      rw [obtain_eq_kept hi, obtain_eq_kept hi', usable_absent, usable_absent, inspected_facing,
        hauthorize, kept_facing]
    · exact ⟨s, obtain_facing hi hstate s⟩

end Agrees

end Auth

end DocPull
