import DocPull.Proofs.Auth.Exchange
import DocPull.Proofs.Auth.Obtain
import DocPull.Proofs.Auth.Ways

/-!
# What an obtained credential covers

A saved credential is used or renewed only if it covers what is required, and renewing keeps its
scopes. A login takes the scopes from the token page, which may state fewer than were asked for;
nobody looks at them again before the credential is handed out.
-/
namespace DocPull.Auth

open Http

/-- The scopes that a grant states. A blank text states nothing. -/
def Grant.stated? (g : Grant) : Option (List Bytes) :=
  (g.scope.filter fun s => Blank.trim s ≠ []).map Blank.fields

theorem grantedScopes_eq (g : Grant) (requested : List Bytes) :
    grantedScopes g.scope (some requested) = some (g.stated?.getD requested) := by
  unfold grantedScopes Grant.stated?
  cases g.scope with
  | none => rfl
  | some s =>
    by_cases hblank : Blank.trim s = []
    · simp [hblank, Option.filter]
    · simp [hblank, Option.filter]

theorem Credential.covers_iff {c : Credential} {required : List Bytes} :
    c.covers required = true ↔ ∀ s ∈ required, s ∈ c.scopes.getD [] := by
  simp [Credential.covers]

/-- A granted credential covers what was asked for, unless the provider states less. -/
theorem covers_granted_iff (g : Grant) (requested : List Bytes) :
    (⟨g.token, grantedScopes g.scope (some requested)⟩ : Credential).covers requested = true ↔
      ∀ scopes, g.stated? = some scopes → ∀ s ∈ requested, s ∈ scopes := by
  rw [Credential.covers_iff, grantedScopes_eq]
  cases g.stated? with
  | none => simp
  | some scopes => simp

/-- A login returns what the last answer of the token page grants. -/
theorem authorize_ok {o : Options} {h h₁ : Host} {c : Credential}
    (ha : authorize o h = (.ok c, h₁)) :
    ∃ reply g, .reply reply :: h₁.wire.answers <:+ h.wire.answers ∧ Says h.now reply g ∧
      c = ⟨g.token, grantedScopes g.scope (some o.scopes)⟩ := by
  obtain ⟨e, h₂, hfailed, -⟩ | ⟨id, code, -, -, hredeemed⟩ := authorize_cases o h
  · rw [ha] at hfailed
    cases hfailed
  · obtain ⟨canceled, console, consents, hopened⟩ := opened_onlyShown o id h
    rw [hopened] at hredeemed
    have hexchanged := redeem_exchanged (asking id h) code h.entropy.verifier
      (Host.log .info "received authorization code, exchanging for token" []
        { h with wire := { h.wire with canceled := canceled }, console := console,
                 consents := consents })
    rw [ha] at hredeemed
    generalize redeem _ _ _ _ = got at hexchanged hredeemed
    obtain ⟨e | g, h₂⟩ := got
    · cases hredeemed
    · cases hredeemed
      obtain ⟨reply, hlast, hsaid⟩ := hexchanged.said g rfl
      exact ⟨reply, g, hlast, hsaid, rfl⟩

/-- A renewed credential has the scopes of the old one. -/
theorem refresh_scopes {o : Options} {c c' : Credential} {h h₁ : Host}
    (hr : refresh o c h = (.ok c', h₁)) : c'.scopes = c.scopes := by
  unfold refresh at hr
  cases hid : identity o h.tree with
  | error e =>
    rw [hid] at hr
    cases hr
  | ok id =>
    rw [hid] at hr
    dsimp only at hr
    generalize renew _ _ _ _ = got at hr
    obtain ⟨e | ⟨t, id'⟩, h₂⟩ := got
    · cases hr
    · cases hr
      rfl

/-- What is found for a credential that is valid or expired has its scopes. -/
theorem usable_scopes {o : Options} {state : State} {c c' : Credential} {h : Host}
    (hstate : state ≠ .absent) (hc : (usable o state (some c) h).1 = .ok c') :
    c'.scopes = c.scopes := by
  cases state with
  | absent => exact absurd rfl hstate
  | expired => exact refresh_scopes (Prod.ext hc rfl)
  | valid =>
    cases hc
    rfl

/-- A credential that was saved and is valid or expired covers what is required when it is
returned. After a login it does so exactly if the last answer of the token page states no scopes,
or all that are required. -/
theorem obtain_covers_iff {o : Options} {h : Host} {state : State} {saved : Option Credential}
    {c : Credential} (hi : (inspect o h).1 = .ok (state, saved)) (hc : (obtain o h).1 = .ok c) :
    (state ≠ .absent → c.covers o.scopes = true) ∧
      (state = .absent → ∃ used reply g,
        h.wire.answers = used ++ .reply reply :: (obtain o h).2.wire.answers ∧
          Says h.now reply g ∧ c.token = g.token ∧
          (c.covers o.scopes = true ↔
            ∀ scopes, g.stated? = some scopes → ∀ s ∈ o.scopes, s ∈ scopes)) := by
  have hfound : (usable o state saved (inspected o state h)).1 = .ok c := by
    rw [obtain_eq_kept hi] at hc
    exact found_of_kept hc
  refine ⟨fun hstate => ?_, fun hstate => ?_⟩
  · obtain ⟨-, habsent⟩ | ⟨old, rfl, -, rfl⟩ := inspect_state hi
    · exact absurd habsent hstate
    · have hold := Credential.covers_of_state hstate
      rw [Credential.covers_iff] at hold ⊢
      rw [usable_scopes hstate hfound]
      exact hold
  · subst hstate
    obtain ⟨console, hready⟩ := inspected_console o .absent h
    have hwire : (obtain o h).2.wire = (authorize o (inspected o .absent h)).2.wire := by
      rw [obtain_eq_kept hi, kept_wire, usable_absent]
    rw [usable_absent] at hfound
    obtain ⟨reply, g, ⟨used, hused⟩, hsaid, rfl⟩ := authorize_ok (Prod.ext hfound rfl)
    rw [hready] at hused hsaid hwire
    refine ⟨used, reply, g, ?_, hsaid, rfl, covers_granted_iff g o.scopes⟩
    rw [hwire, hused]

/-- A token page that states another scope than the one asked for. -/
def narrowPage : Http.Reply :=
  ⟨200, [("Content-Type", "application/json")],
    "\x7b\"access_token\":\"a\",\"scope\":\"drive.readonly\"\x7d", .complete⟩

/-- A login with nothing saved, at such a page. -/
def narrowLogin : Host :=
  { sampleLogin .works 0 with wire := .ofAnswers [.reply narrowPage] false }

/-- The credential of such a login. -/
def narrowCredential : Credential :=
  ⟨⟨"a", [], [], Instant.unset, 0⟩, some ["drive.readonly"]⟩

/-- The login for one scope hands out a credential for another. -/
theorem narrowLogin_uncovered :
    (obtain sampleOptions narrowLogin).1 = .ok narrowCredential ∧
      ¬narrowCredential.covers sampleOptions.scopes = true := by
  have hi : (inspect sampleOptions narrowLogin).1 = .ok (.absent, none) := by decide +kernel
  have hc : (obtain sampleOptions narrowLogin).1 = .ok narrowCredential := by decide +kernel
  refine ⟨hc, ?_⟩
  obtain ⟨used, reply, g, hanswers, hsaid, -, hcovers⟩ := (obtain_covers_iff hi hc).2 rfl
  have hreply : reply = narrowPage := by
    cases used with
    | nil =>
      cases hanswers
      rfl
    | cons a used => simp [narrowLogin, Wire.ofAnswers] at hanswers
  subst hreply
  have hscope : (readGrant narrowLogin.now narrowPage
      (narrowPage.body.take maxGrantBody)).toOption.map Grant.scope =
        some (some (utf8 "drive.readonly")) := by decide +kernel
  rw [hsaid] at hscope
  have hstated : g.stated? = some [utf8 "drive.readonly"] := by
    rw [Grant.stated?, Option.some.inj hscope]
    decide +kernel
  intro hall
  have hdrive := hcovers.mp hall _ hstated (utf8 "drive") (by decide)
  exact absurd hdrive (by decide)

end DocPull.Auth
