import DocPull.Proofs.Auth.Obtain
import DocPull.Proofs.Auth.Secrets
import DocPull.Proofs.Auth.Unattended

/-!
# Secrets stay out of sight

Two worlds that differ in the secrets of their files, and in the requests on record, look the same:
obtaining a credential prints and logs the same in both, shows the same pages, and fails in the same
way or in neither. What is found on the way differs in its secrets at most.
-/
open DocPull.Files

namespace DocPull

/-- Two worlds that look the same: the secrets in their files and the requests on record may
differ. -/
def Host.SameView (h h' : Host) : Prop :=
  ∃ tree sent, h.tree.SameButSecrets tree ∧
    h' = { h with tree := tree, wire := h.wire.recording sent }

namespace Host.SameView

variable {h h' : Host}

theorem display (hview : h.SameView h') (item : ConsoleItem) :
    (h.display item).SameView (h'.display item) := by
  obtain ⟨tree, sent, htree, rfl⟩ := hview
  exact ⟨tree, sent, htree, rfl⟩

theorem log (hview : h.SameView h') (level : Log.Level) (message : String)
    (fields : List (String × Log.Value)) :
    (h.log level message fields).SameView (h'.log level message fields) :=
  hview.display _

theorem console (hview : h.SameView h') : h'.console = h.console := by
  obtain ⟨tree, sent, -, rfl⟩ := hview
  rfl

theorem consents (hview : h.SameView h') : h'.consents = h.consents := by
  obtain ⟨tree, sent, -, rfl⟩ := hview
  rfl

theorem launch (hview : h.SameView h') : h'.launch = h.launch := by
  obtain ⟨tree, sent, -, rfl⟩ := hview
  rfl

theorem listener (hview : h.SameView h') : h'.listener = h.listener := by
  obtain ⟨tree, sent, -, rfl⟩ := hview
  rfl

theorem entropy (hview : h.SameView h') : h'.entropy = h.entropy := by
  obtain ⟨tree, sent, -, rfl⟩ := hview
  rfl

end Host.SameView

namespace Auth

open Http

/-- Two computations that end in worlds which look the same, with the same failure or with related
values. -/
inductive Paired {ε α : Type} (R : α → α → Prop) :
    Except ε α × Host → Except ε α × Host → Prop
  | ok {a a' : α} {h h' : Host} (ha : R a a') (hview : h.SameView h') :
      Paired R (.ok a, h) (.ok a', h')
  | error (e : ε) {h h' : Host} (hview : h.SameView h') : Paired R (.error e, h) (.error e, h')

theorem Paired.map {ε α β : Type} {R : α → α → Prop} {S : β → β → Prop}
    {r r' : Except ε α × Host} (h : Paired R r r') {f g : α → β}
    (hfg : ∀ a a', R a a' → S (f a) (g a')) : Paired S (r.1.map f, r.2) (r'.1.map g, r'.2) := by
  cases h with
  | ok ha hview => exact .ok (hfg _ _ ha) hview
  | error e hview => exact .error e hview

section Exchange

variable {id id' : Identity} {h h' : Host}

/-- The secret of a client and the parameters of an exchange do not decide where it goes. -/
theorem grantRequest_same (style : Int) (params params' : Query.Params)
    (hid : id.SameButSecret id') :
    Outcome.Same (fun r r' => r'.method = r.method ∧ r'.url = r.url)
      (grantRequest id style params) (grantRequest id' style params') := by
  obtain ⟨secret, rfl⟩ := hid
  unfold grantRequest
  dsimp only
  cases Url.parse id.endpoint.tokenUrl with
  | error e => exact .error e
  | ok u => exact .ok ⟨rfl, rfl⟩

section

variable {listens : Bool} {params : Query.Params} {now : Instant} {w w' : Wire}

/-- A try is answered in the same way, whatever it carries and whatever is on record. -/
theorem Tried.recording {style : Int} {x : Except GrantError Grant}
    (ht : Tried listens id style params now w x w') (hid : id.SameButSecret id')
    (params' : Query.Params) (sent : List Request) :
    ∃ sent', Tried listens id' style params' now (w.recording sent) x (w'.recording sent') := by
  have hrequest := grantRequest_same style params params' hid
  have hran : ∀ {r r' x w₁}, r'.method = r.method ∧ r'.url = r.url →
      run (plain (ρ := Empty) listens) r w = (x, w₁) → ∃ sent',
        run (plain (ρ := Empty) listens) r' (w.recording sent) = (x, w₁.recording sent') := by
    intro r r' x w₁ hr hrun
    obtain ⟨sent', hrun'⟩ := run_recording (ρ := Empty) listens hr.1 hr.2 w sent
    rw [hrun] at hrun'
    exact ⟨sent', hrun'⟩
  cases ht with
  | unsent hr =>
    rw [hr] at hrequest
    exact ⟨sent, .unsent hrequest.of_error⟩
  | unanswered hr hrun =>
    rw [hr] at hrequest
    obtain ⟨r', hr', hsame⟩ := hrequest.of_ok
    obtain ⟨sent', hrun'⟩ := hran hsame hrun
    exact ⟨sent', .unanswered hr' hrun'⟩
  | unread hr hrun hread =>
    rw [hr] at hrequest
    obtain ⟨r', hr', hsame⟩ := hrequest.of_ok
    obtain ⟨sent', hrun'⟩ := hran hsame hrun
    exact ⟨sent', .unread hr' hrun' (by rw [readBody_recording, hread])⟩
  | read hr hrun hread hgrant =>
    rw [hr] at hrequest
    obtain ⟨r', hr', hsame⟩ := hrequest.of_ok
    obtain ⟨sent', hrun'⟩ := hran hsame hrun
    exact ⟨sent', .read hr' hrun' (by rw [readBody_recording, hread]) hgrant⟩

/-- An exchange is answered in the same way, whatever it carries and whatever is on record. -/
theorem Settled.recording {x : Except GrantError (Grant × Identity)}
    (hs : Settled listens id params now w x w') (hid : id.SameButSecret id')
    (params' : Query.Params) (sent : List Request) :
    ∃ sent' x', Settled listens id' params' now (w.recording sent) x' (w'.recording sent') ∧
      Outcome.Same (fun p p' => p'.1 = p.1) x x' := by
  have hrequest := grantRequest_same 2 params params' hid
  have hstyle' : id'.endpoint.style = id.endpoint.style := by
    obtain ⟨secret, rfl⟩ := hid
    rfl
  have hgrant : ∀ x : Except GrantError Grant, Outcome.Same Eq x x :=
    fun x => .of_eq (fun _ => rfl) rfl
  cases hs with
  | known hstyle ht =>
    obtain ⟨sent', ht'⟩ := ht.recording hid params' sent
    rw [← hstyle'] at hstyle ht'
    exact ⟨sent', _, .known hstyle ht', (hgrant _).map fun _ _ => Eq.symm⟩
  | unsent hstyle hr =>
    rw [hr] at hrequest
    exact ⟨sent, _, .unsent (hstyle'.trans hstyle) hrequest.of_error, .error _⟩
  | first hstyle hr ht =>
    rw [hr] at hrequest
    obtain ⟨r', hr', -⟩ := hrequest.of_ok
    obtain ⟨sent', ht'⟩ := ht.recording hid params' sent
    exact ⟨sent', _, .first (hstyle'.trans hstyle) hr' ht', .ok rfl⟩
  | second hstyle hr hfailed ht =>
    rw [hr] at hrequest
    obtain ⟨r', hr', -⟩ := hrequest.of_ok
    obtain ⟨sent₁, hfailed'⟩ := hfailed.recording hid params' sent
    obtain ⟨sent', ht'⟩ := ht.recording hid params' sent₁
    exact ⟨sent', _, .second (hstyle'.trans hstyle) hr' hfailed' ht',
      (hgrant _).map fun _ _ => Eq.symm⟩

end

theorem exchange_paired (listens : Bool) (params params' : Query.Params)
    (hid : id.SameButSecret id') (hview : h.SameView h') :
    Paired (fun p p' => p'.1 = p.1) (exchange listens id params h)
      (exchange listens id' params' h') := by
  obtain ⟨tree, sent, htree, rfl⟩ := hview
  obtain ⟨x, w, hx, hs⟩ := exchange_cases listens id params h
  obtain ⟨sent', x', hs', hsame⟩ := hs.recording hid params' sent
  let h₀ : Host := { h with tree := tree, wire := h.wire.recording sent }
  have hview : Host.SameView { h with wire := w } { h₀ with wire := w.recording sent' } :=
    ⟨tree, sent', htree, rfl⟩
  rw [hx, Settled.eq (h := h₀) hs']
  cases hsame with
  | ok hg => exact .ok hg hview
  | error e => exact .error e hview

/-- A renewed token differs in its secrets at most: the old refresh token stays when no new one is
given. -/
theorem renew_paired (listens : Bool) {refreshToken refreshToken' : Bytes}
    (htoken : refreshToken' = [] ↔ refreshToken = []) (hid : id.SameButSecret id')
    (hview : h.SameView h') :
    Paired (fun p p' => p.1.SameButSecrets p'.1) (renew listens id refreshToken h)
      (renew listens id' refreshToken' h') := by
  by_cases hempty : refreshToken = []
  · rw [renew, renew, if_pos hempty, if_pos (htoken.mpr hempty)]
    exact .error _ hview
  · rw [renew_eq listens id hempty, renew_eq listens id' (mt htoken.mp hempty)]
    refine (exchange_paired listens _ _ hid hview).map ?_
    rintro ⟨g, id₁⟩ ⟨g', id₁'⟩ hg
    obtain rfl : g' = g := hg
    dsimp only [keeping]
    split_ifs
    · exact ⟨.rfl, rfl, htoken, rfl, rfl⟩
    · exact .refl _

theorem redeem_paired (code verifier : Bytes) (hid : id.SameButSecret id')
    (hview : h.SameView h') :
    Paired Eq (redeem id code verifier h) (redeem id' code verifier h') := by
  obtain ⟨secret, rfl⟩ := hid
  unfold redeem
  dsimp only
  exact (exchange_paired true _ _ ⟨secret, rfl⟩ hview).map fun _ _ => Eq.symm

end Exchange

section Obtain

variable {h h' : Host}

theorem Credential.SameButSecrets.covers_eq {c c' : Credential} (hc : c.SameButSecrets c')
    (required : List Bytes) : c'.covers required = c.covers required := by
  simp only [Credential.covers, hc.scopes]

theorem Token.SameButSecrets.isValid_eq {t t' : Token} (ht : t.SameButSecrets t')
    (now : Instant) : t'.isValid now = t.isValid now := by
  have haccess : (t'.accessToken != []) = (t.accessToken != []) := by
    rw [Bool.eq_iff_iff, bne_iff_ne, bne_iff_ne, ne_eq, ne_eq, ht.accessToken]
  simp only [Token.isValid, haccess, ht.expiry]

/-- The state of a saved credential is no secret. -/
theorem Credential.SameButSecrets.state_eq {c c' : Credential} (hc : c.SameButSecrets c')
    (required : List Bytes) (now : Instant) : c'.state required now = c.state required now := by
  have hrefresh : c'.token.refreshToken ≠ [] ↔ c.token.refreshToken ≠ [] :=
    not_congr hc.token.refreshToken
  unfold Credential.state
  rw [hc.covers_eq, hc.token.isValid_eq, if_congr hrefresh rfl rfl]

/-- What is found in the token file is the same, up to the secrets in it. -/
theorem inspect_paired (o : Options) (secret : Bytes) (hview : h.SameView h') :
    Paired (fun p p' => p'.1 = p.1 ∧ Option.Rel Credential.SameButSecrets p.2 p'.2) (inspect o h)
      (inspect { o with clientSecret := secret } h') := by
  obtain ⟨tree, sent, htree, rfl⟩ := hview
  have hload := TokenFile.load_same htree o.tokenPath
  unfold inspect
  dsimp only
  generalize TokenFile.load h.tree o.tokenPath = x, TokenFile.load tree o.tokenPath = x' at hload
  cases hload with
  | error e => exact .error _ ⟨tree, sent, htree, rfl⟩
  | ok hsaved =>
    cases hsaved with
    | none => exact .ok ⟨rfl, .none⟩ ⟨tree, sent, htree, rfl⟩
    | some hc =>
      dsimp only
      rw [hc.covers_eq, hc.scopes]
      split_ifs
      · exact .ok ⟨hc.state_eq _ _, .some hc⟩ ⟨tree, sent, htree, rfl⟩
      · exact .ok ⟨hc.state_eq _ _, .some hc⟩ ⟨tree, sent, htree, rfl⟩

theorem identity_sameView (o : Options) (secret : Bytes) (hview : h.SameView h') :
    Outcome.Same Identity.SameButSecret (identity o h.tree)
      (identity { o with clientSecret := secret } h'.tree) := by
  obtain ⟨tree, sent, htree, rfl⟩ := hview
  exact identity_same htree o secret

/-- Renewing tells nothing of the token but its expiry. -/
theorem refresh_paired (o : Options) (secret : Bytes) {c c' : Credential}
    (hc : c.SameButSecrets c') (hview : h.SameView h') :
    Paired Credential.SameButSecrets (refresh o c h)
      (refresh { o with clientSecret := secret } c' h') := by
  have hid := identity_sameView o secret hview
  unfold refresh
  generalize identity o h.tree = x, identity _ h'.tree = x' at hid
  cases hid with
  | error e => exact .error e hview
  | @ok id id' hid =>
    dsimp only
    rw [hc.token.expiry]
    have hrenew := renew_paired true hc.token.refreshToken hid (hview.log .info
      "refreshing expired token" [("expired_at", .time c.token.expiry)])
    generalize renew true id _ _ = out, renew true id' _ _ = out' at hrenew
    cases hrenew with
    | error e hview₁ => exact .error _ hview₁
    | ok ht hview₁ =>
      dsimp only
      rw [ht.expiry]
      exact .ok ⟨ht, hc.scopes⟩ (hview₁.log _ _ _)

theorem visitPage_sameView (url state : Bytes) (hview : h.SameView h') :
    (visitPage url state h).SameView (visitPage url state h') := by
  obtain ⟨tree, sent, htree, rfl⟩ := hview
  unfold visitPage
  dsimp only
  cases h.visit.ending with
  | waits => exact ⟨tree, sent, htree, rfl⟩
  | cancels => exact ⟨tree, sent, htree, rfl⟩
  | interrupts => exact ⟨tree, sent, htree, rfl⟩

theorem launchBrowser_sameView (url state : Bytes) (hview : h.SameView h') :
    (launchBrowser url state h).SameView (launchBrowser url state h') := by
  unfold launchBrowser promptFor
  rw [hview.launch]
  cases h.launch with
  | unavailable => exact visitPage_sameView url state (hview.display _)
  | opens => exact visitPage_sameView url state (hview.log _ _ _)
  | opensAndFails m =>
    exact ((visitPage_sameView url state (hview.log _ _ _)).log _ _ _).display _
  | fails m => exact visitPage_sameView url state (((hview.log _ _ _).log _ _ _).display _)

/-- The consent page does not show the secret of the client. -/
theorem opened_sameView (o : Options) (secret : Bytes) {id id' : Identity}
    (hid : id.SameButSecret id') (hview : h.SameView h') :
    (opened o id h).SameView (opened { o with clientSecret := secret } id' h') := by
  have hurl : consentUrl (asking id' h') h'.entropy.state h'.entropy.verifier =
      consentUrl (asking id h) h.entropy.state h.entropy.verifier := by
    obtain ⟨secret', rfl⟩ := hid
    obtain ⟨tree, sent, -, rfl⟩ := hview
    rfl
  unfold opened
  rw [hurl, hview.entropy]
  exact launchBrowser_sameView _ _ ((hview.log _ _ _).log _ _ _)

theorem redeemed_paired (o : Options) (secret : Bytes) {r r' : Except GrantError Grant × Host}
    (h : Paired Eq r r') :
    Paired Credential.SameButSecrets (redeemed o r)
      (redeemed { o with clientSecret := secret } r') := by
  cases h with
  | error e hview => exact .error _ hview
  | ok hg hview =>
    subst hg
    exact .ok (.refl _) (hview.log _ _ _)

/-- A login of a client shows, prints and waits for the same, whatever the client's secret is. -/
theorem authorize_paired (o : Options) (secret : Bytes) (hview : h.SameView h') :
    Paired Credential.SameButSecrets (authorize o h)
      (authorize { o with clientSecret := secret } h') := by
  have hid := identity_sameView o secret hview
  generalize hx : identity o h.tree = x,
    hx' : identity { o with clientSecret := secret } h'.tree = x' at hid
  cases hid with
  | error e =>
    unfold authorize
    rw [hx, hx']
    exact .error e hview
  | @ok id id' hid =>
    have hopened := opened_sameView o secret hid hview
    have hcode : awaitCode h.entropy.state (opened { o with clientSecret := secret } id' h') =
        awaitCode h.entropy.state (opened o id h) := by
      rw [awaitCode_opened, awaitCode_opened]
      obtain ⟨tree, sent, -, rfl⟩ := hview
      rfl
    have hasking : (asking id h).SameButSecret (asking id' h') := by
      obtain ⟨secret', rfl⟩ := hid
      exact ⟨secret', by rw [asking, asking, hview.entropy]⟩
    rw [authorize_eq hx, authorize_eq hx', hview.listener, hview.entropy, hcode]
    cases h.listener with
    | cannotBind m => exact .error _ (hview.log _ _ _)
    | wrongAddress => exact .error _ (hview.log _ _ _)
    | _ =>
      dsimp only
      cases awaitCode h.entropy.state (opened o id h) with
      | error e => exact .error e hopened
      | ok code =>
        exact redeemed_paired o secret (redeem_paired code _ hasking (hopened.log _ _ _))

/-- The way to a credential is the same, whatever the secrets are. -/
theorem usable_paired (o : Options) (secret : Bytes) (state : State)
    {saved saved' : Option Credential} (hsaved : Option.Rel Credential.SameButSecrets saved saved')
    (hview : h.SameView h') :
    Paired Credential.SameButSecrets (usable o state saved h)
      (usable { o with clientSecret := secret } state saved' h') := by
  cases hsaved with
  | none =>
    cases state <;> exact authorize_paired o secret hview
  | some hc =>
    cases state with
    | valid => exact .ok hc hview
    | expired => exact refresh_paired o secret hc hview
    | absent => exact authorize_paired o secret hview

/-- Whether a credential can be saved, and why not, is the same. -/
theorem saveTo_result (path : Bytes) {c c' : Credential} (hc : c.SameButSecrets c')
    (hview : h.SameView h') : (saveTo path c' h').1 = (saveTo path c h).1 := by
  obtain ⟨tree, sent, htree, rfl⟩ := hview
  unfold saveTo TokenFile.save
  dsimp only
  rw [hc.token.expiry]
  cases c.token.expiry.unwritable? with
  | some why => rfl
  | none =>
    dsimp only
    rw [writeFile_result_of_alike htree.alike path (TokenFile.encode c.token c.scopes)]

/-- What a user can see of a run: what was printed and logged, the pages that were shown, and the
failure. -/
structure Indistinguishable (r r' : Except Error Credential × Host) : Prop where
  console : r'.2.console = r.2.console
  consents : r'.2.consents = r.2.consents
  failure : ∀ e, r'.1 = .error e ↔ r.1 = .error e

theorem kept_indistinguishable (o : Options) (secret : Bytes)
    {r r' : Except Error Credential × Host} (h : Paired Credential.SameButSecrets r r') :
    Indistinguishable (kept o r) (kept { o with clientSecret := secret } r') := by
  cases h with
  | error e hview => exact ⟨hview.console, hview.consents, fun _ => .rfl⟩
  | @ok c c' h h' hc hview =>
    have hsave := saveTo_result o.tokenPath hc hview
    have hconsole : (saveTo o.tokenPath c' h').2.console = (saveTo o.tokenPath c h).2.console :=
      hview.console
    have hconsents : (saveTo o.tokenPath c' h').2.consents =
        (saveTo o.tokenPath c h).2.consents := hview.consents
    unfold kept
    dsimp only
    generalize saveTo o.tokenPath c h = saved, saveTo o.tokenPath c' h' = saved' at *
    obtain ⟨e | x, h₁⟩ := saved
    · obtain ⟨_, h₁'⟩ := saved'
      obtain rfl := hsave
      exact ⟨hconsole, hconsents, fun _ => .rfl⟩
    · obtain ⟨_, h₁'⟩ := saved'
      obtain rfl := hsave
      refine ⟨?_, hconsents, fun e => ?_⟩
      · dsimp only [Host.log, Host.display] at hconsole ⊢
        rw [hconsole, hc.token.expiry]
      · simp

/-- Obtaining a credential keeps the secrets: two runs from worlds that differ in the tokens of
their files and in the secret of the client print and log the same at every level, show the same
pages, and fail in the same way or not at all. -/
theorem obtain_keeps_secrets (o : Options) (secret : Bytes) (h : Host) {t : Tree}
    (htree : h.tree.SameButSecrets t) :
    Indistinguishable (obtain o h)
      (obtain { o with clientSecret := secret } { h with tree := t }) := by
  have hview : h.SameView { h with tree := t } := ⟨t, h.wire.sent, htree, rfl⟩
  have hinspect := inspect_paired o secret hview
  generalize hx : inspect o h = x,
    hx' : inspect { o with clientSecret := secret } { h with tree := t } = x' at hinspect
  cases hinspect with
  | error e hview₁ =>
    rw [obtain_of_inspect_error (congrArg Prod.fst hx),
      obtain_of_inspect_error (congrArg Prod.fst hx'), hx, hx']
    exact ⟨hview₁.console, hview₁.consents, fun _ => .rfl⟩
  | @ok found found' _ _ hfound hview₁ =>
    obtain ⟨state, saved⟩ := found
    obtain ⟨_, saved'⟩ := found'
    obtain ⟨rfl, hsaved⟩ := hfound
    rw [obtain_eq_kept (congrArg Prod.fst hx), obtain_eq_kept (congrArg Prod.fst hx')]
    refine kept_indistinguishable o secret (usable_paired o secret _ hsaved ?_)
    rw [inspected, inspected, hx, hx']
    exact hview₁.log _ _ _

end Obtain

/-- A credential whose token expires after an hour. -/
def hourly (accessToken refreshToken : Bytes) : Credential :=
  ⟨⟨accessToken, [], refreshToken, ⟨3600, 0, 0⟩, 0⟩, some ["drive"]⟩

/-- A world with an expired token in its file, and a provider that no longer takes it. -/
def revokedLogin (accessToken refreshToken : Bytes) : Host where
  tree := Tree.empty.put [utf8 "token.json"]
    (.file 0o600 (TokenFile.encode (hourly accessToken refreshToken).token (some ["drive"])))
  wire := .ofAnswers [.reply ⟨400, [], "\x7b\"error\":\"invalid_grant\"\x7d", .complete⟩] false
  now := ⟨4000, 0, 0⟩
  entropy := ⟨fun _ => "1", "s", "v", 8080⟩

/-- Whatever the token and the client's secret are, the same is printed when the token is no longer
taken, and the failure is the same. -/
theorem revokedLogin_indistinguishable :
    (revokedLogin "a" "r").tree.SameButSecrets (revokedLogin "b" "q").tree ∧
      Indistinguishable (obtain sampleOptions (revokedLogin "a" "r"))
        (obtain { sampleOptions with clientSecret := "other" } (revokedLogin "b" "q")) ∧
      (obtain { sampleOptions with clientSecret := "other" } (revokedLogin "b" "q")).1 =
        .error (.refreshing (.rejected "invalid_grant" [] [])) := by
  have htree : (revokedLogin "a" "r").tree.SameButSecrets (revokedLogin "b" "q").tree := by
    have hcredential : (hourly "a" "r").SameButSecrets (hourly "b" "q") :=
      ⟨⟨by decide, rfl, by decide, rfl, rfl⟩, rfl⟩
    exact (Tree.SameButSecrets.refl .empty).put _ _ (TokenFile.encode_same hcredential)
  have hsame := obtain_keeps_secrets sampleOptions "other" (revokedLogin "a" "r") htree
  have hrejected : (obtain sampleOptions (revokedLogin "a" "r")).1 =
      .error (.refreshing (.rejected "invalid_grant" [] [])) := by
    decide +kernel
  exact ⟨htree, hsame, (hsame.failure _).mpr hrejected⟩

end Auth

end DocPull
