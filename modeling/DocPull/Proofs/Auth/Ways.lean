import DocPull.Auth.Manager
import DocPull.Proofs.Outcome

/-!
# The ways to a credential

Obtaining looks at the saved credential, goes the way that its state asks for, and saves what it
got. Looking touches nothing but the log, and a credential that is valid or expired covers what is
required. A login shows the consent page, which changes nothing that is read later, and redeems the
code it was given.
-/
namespace DocPull.Auth

theorem Credential.covers_of_state {c : Credential} {required : List Bytes} {now : Instant}
    (h : c.state required now ≠ .absent) : c.covers required = true := by
  by_contra hcovers
  exact h (by simp [Credential.state, hcovers])

section Inspect

variable {o : Options} {h : Host} {state : State} {saved : Option Credential}

/-- Looking at the saved credential leaves a trace in the log only. -/
theorem inspect_console (o : Options) (h : Host) :
    ∃ console, (inspect o h).2 = { h with console := console } := by
  unfold inspect
  split
  · exact ⟨h.console, rfl⟩
  · exact ⟨_, rfl⟩
  · dsimp only
    split_ifs
    · exact ⟨h.console, rfl⟩
    · exact ⟨_, rfl⟩

/-- The state that is found is the state of what is saved. -/
theorem inspect_state (hi : (inspect o h).1 = .ok (state, saved)) :
    (saved = none ∧ state = .absent) ∨
      ∃ c, saved = some c ∧ TokenFile.load h.tree o.tokenPath = .ok (some c) ∧
        state = c.state o.scopes h.now := by
  unfold inspect at hi
  split at hi
  · cases hi
  · cases hi
    exact .inl ⟨rfl, rfl⟩
  · rename_i c hload
    dsimp only at hi
    cases hi
    refine .inr ⟨c, rfl, hload, ?_⟩
    split_ifs <;> rfl

end Inspect

/-- The world in which the way to a credential begins. -/
def inspected (o : Options) (state : State) (h : Host) : Host :=
  (inspect o h).2.log .info "saved credential inspected"
    [("path", .text o.tokenPath), ("state", .text state.name)]

/-- What becomes of a way to a credential: what was found is saved. -/
def kept (o : Options) (found : Except Error Credential × Host) : Except Error Credential × Host :=
  match found with
  | (.error e, h) => (.error e, h)
  | (.ok c, h) =>
    match saveTo o.tokenPath c h with
    | (.error e, h) => (.error (.saving e), h)
    | (.ok _, h) =>
      (.ok c, h.log .info "credential ready"
        [("path", .text o.tokenPath), ("expiry", .time c.token.expiry)])

/-- Obtaining is the way that the state asks for, and then the save. -/
theorem obtain_eq_kept {o : Options} {h : Host} {state : State} {saved : Option Credential}
    (hi : (inspect o h).1 = .ok (state, saved)) :
    obtain o h = kept o (usable o state saved (inspected o state h)) := by
  have hpair : inspect o h = (.ok (state, saved), (inspect o h).2) := Prod.ext hi rfl
  unfold obtain
  rw [hpair]
  rfl

/-- A saved credential that cannot be looked at ends the way before it begins. -/
theorem obtain_of_inspect_error {o : Options} {h : Host} {e : Error}
    (hi : (inspect o h).1 = .error e) : obtain o h = (.error e, (inspect o h).2) := by
  have hpair : inspect o h = (.error e, (inspect o h).2) := Prod.ext hi rfl
  unfold obtain
  rw [hpair]

/-- A login is the way when nothing usable is saved. -/
theorem usable_absent (o : Options) (saved : Option Credential) (h : Host) :
    usable o .absent saved h = authorize o h := by
  cases saved <;> rfl

theorem inspected_console (o : Options) (state : State) (h : Host) :
    ∃ console, inspected o state h = { h with console := console } := by
  obtain ⟨console, hconsole⟩ := inspect_console o h
  rw [inspected, hconsole]
  exact ⟨_, rfl⟩

section Kept

variable {o : Options} {c : Credential} {h : Host}

/-- A found credential is returned as it is once it is saved; the save changes files, and the log
tells of it. -/
theorem kept_ok (o : Options) (c : Credential) (h : Host) :
    (∃ tree console, (kept o (.ok c, h)).2 = { h with tree := tree, console := console }) ∧
      (kept o (.ok c, h)).1 =
        ((saveTo o.tokenPath c h).1.mapError Error.saving).map fun _ => c := by
  have hsave : (saveTo o.tokenPath c h).2 =
      { h with tree := (saveTo o.tokenPath c h).2.tree } := rfl
  unfold kept
  dsimp only
  generalize saveTo o.tokenPath c h = saved at hsave
  obtain ⟨e | u, h₁⟩ := saved
  · exact ⟨⟨_, _, hsave⟩, rfl⟩
  · refine ⟨?_, rfl⟩
    dsimp only at hsave ⊢
    rw [hsave]
    exact ⟨_, _, rfl⟩

/-- Saving touches no network. -/
theorem kept_wire (o : Options) (found : Except Error Credential × Host) :
    (kept o found).2.wire = found.2.wire := by
  obtain ⟨e | c, h⟩ := found
  · rfl
  · obtain ⟨⟨tree, console, hworld⟩, -⟩ := kept_ok o c h
    rw [hworld]

/-- What is returned in the end was found on the way. -/
theorem found_of_kept {found : Except Error Credential × Host} (hc : (kept o found).1 = .ok c) :
    found.1 = .ok c := by
  obtain ⟨e | c', h⟩ := found
  · cases hc
  · obtain ⟨-, hresult⟩ := kept_ok o c' h
    rw [hresult, Outcome.map_eq_ok] at hc
    obtain ⟨-, -, rfl⟩ := hc
    rfl

end Kept

/-- What showing a page changes: the log and the prompts, the pages on record, and whether work was
canceled. -/
def OnlyShown (h h' : Host) : Prop :=
  ∃ canceled console consents,
    h' = { h with wire := { h.wire with canceled := canceled }, console := console,
                  consents := consents }

namespace OnlyShown

variable {h h₁ : Host}

theorem refl (h : Host) : OnlyShown h h := ⟨_, _, _, rfl⟩

theorem display {item : ConsoleItem} (a : OnlyShown h h₁) : OnlyShown h (h₁.display item) := by
  obtain ⟨_, _, _, rfl⟩ := a
  exact ⟨_, _, _, rfl⟩

theorem log {level : Log.Level} {message : String} {fields : List (String × Log.Value)}
    (a : OnlyShown h h₁) : OnlyShown h (h₁.log level message fields) :=
  a.display

theorem visitPage {url state : Bytes} (a : OnlyShown h h₁) :
    OnlyShown h (Auth.visitPage url state h₁) := by
  obtain ⟨_, _, _, rfl⟩ := a
  unfold Auth.visitPage
  dsimp only
  split
  · exact ⟨_, _, _, rfl⟩
  · exact ⟨_, _, _, rfl⟩
  · exact ⟨_, _, _, rfl⟩

theorem launchBrowser {url state : Bytes} (a : OnlyShown h h₁) :
    OnlyShown h (Auth.launchBrowser url state h₁) := by
  unfold Auth.launchBrowser promptFor
  dsimp only
  split
  · exact a.display.visitPage
  · exact a.log.visitPage
  · exact a.log.visitPage.log.display
  · exact a.log.log.display.visitPage

end OnlyShown

/-- The client that asks for access, with the address of its listener. -/
def asking (id : Identity) (h : Host) : Identity :=
  { id with redirectUrl := redirectUrl h.entropy.port }

/-- The world after the consent page was shown for a client. -/
def opened (o : Options) (id : Identity) (h : Host) : Host :=
  launchBrowser (consentUrl (asking id h) h.entropy.state h.entropy.verifier) h.entropy.state
    ((h.log .info "starting interactive authorization" [("path", .text o.tokenPath)]).log .info
      "callback server listening" [("port", .integer h.entropy.port)])

theorem opened_onlyShown (o : Options) (id : Identity) (h : Host) :
    OnlyShown h (opened o id h) :=
  (OnlyShown.refl h).log.log.launchBrowser

/-- What becomes of a redeemed code. -/
def redeemed (o : Options) (r : Except GrantError Grant × Host) : Except Error Credential × Host :=
  match r with
  | (.error e, h) => (.error (.redeeming e), h)
  | (.ok g, h) =>
    (.ok ⟨g.token, grantedScopes g.scope (some o.scopes)⟩,
      h.log .info "token exchange successful" [("expiry", .time g.token.expiry)])

/-- A login of a known client, by what its listener can do. -/
theorem authorize_eq {o : Options} {h : Host} {id : Identity} (hid : identity o h.tree = .ok id) :
    authorize o h =
      match h.listener with
      | .cannotBind m =>
        (.error (.listener m), h.log .info "starting interactive authorization"
          [("path", .text o.tokenPath)])
      | .wrongAddress =>
        (.error .listenerAddress, h.log .info "starting interactive authorization"
          [("path", .text o.tokenPath)])
      | _ =>
        match awaitCode h.entropy.state (opened o id h) with
        | .error e => (.error e, opened o id h)
        | .ok code =>
          redeemed o (redeem (asking id h) code h.entropy.verifier ((opened o id h).log .info
            "received authorization code, exchanging for token" [])) := by
  unfold authorize
  rw [hid]
  rfl

/-- Everything a login can come to: no code is ever at hand, or the code at hand is redeemed. -/
theorem authorize_cases (o : Options) (h : Host) :
    (∃ e h₁, authorize o h = (.error e, h₁) ∧ OnlyShown h h₁) ∨
      ∃ id code, identity o h.tree = .ok id ∧
        awaitCode h.entropy.state (opened o id h) = .ok code ∧
        authorize o h = redeemed o (redeem (asking id h) code h.entropy.verifier
          ((opened o id h).log .info "received authorization code, exchanging for token" [])) := by
  cases hid : identity o h.tree with
  | error e =>
    refine .inl ⟨e, h, ?_, .refl h⟩
    rw [authorize, hid]
  | ok id =>
    rw [authorize_eq hid]
    split
    · exact .inl ⟨_, _, rfl, (OnlyShown.refl h).log⟩
    · exact .inl ⟨_, _, rfl, (OnlyShown.refl h).log⟩
    · cases hcode : awaitCode h.entropy.state (opened o id h) with
      | error e => exact .inl ⟨e, _, rfl, opened_onlyShown o id h⟩
      | ok code => exact .inr ⟨id, code, rfl, hcode, rfl⟩

end DocPull.Auth
