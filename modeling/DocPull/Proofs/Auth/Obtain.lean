import DocPull.Auth.Manager
import DocPull.Proofs.Auth.Grant

/-!
# Obtaining writes everything or nothing

There are three ways to a credential: the saved one, a renewed one and a new one. None of them
touches a file, so a run that fails before the save leaves the tree as it was, and a failed save
leaves the files as they were. What is returned was saved before, for its owner only, and is loaded
back as it was returned. A failure is of exactly one of the kinds that signing in has, unless it is
this machine's own part that failed.
-/
open DocPull.Files.Tree

namespace DocPull.Auth

/-- The kinds of failure that signing in has. -/
def signInKinds : List FailureKind := [.authorization, .credentialFile, .clientSecret]

/-- Whether this machine's own part failed: the listener for callbacks, or the save. -/
def Error.isLocal : Error → Bool
  | .listener _ => true
  | .listenerAddress => true
  | .server _ => true
  | .saving _ => true
  | _ => false

/-- A failure of one's own part is of no kind, any other one of exactly one kind. -/
structure Error.Classified (e : Error) : Prop where
  none : e.isLocal = true → ∀ k ∈ signInKinds, Failure.isA e k = false
  one : e.isLocal = false → ∃! k, k ∈ signInKinds ∧ Failure.isA e k = true

theorem Error.Classified.of_kind {e : Error} {k : FailureKind} (hk : k ∈ signInKinds)
    (hlocal : e.isLocal = false)
    (hkinds : ∀ k' ∈ signInKinds, Failure.isA e k' = true ↔ k' = k) : e.Classified := by
  refine ⟨fun h => ?_, fun _ => ⟨k, ⟨hk, (hkinds k hk).mpr rfl⟩, fun k' h => ?_⟩⟩
  · rw [hlocal] at h
    cases h
  · exact (hkinds k' h.1).mp h.2

theorem Error.Classified.of_local {e : Error} (hlocal : e.isLocal = true)
    (hkinds : ∀ k, Failure.isA e k = false) : e.Classified := by
  refine ⟨fun _ k _ => hkinds k, fun h => ?_⟩
  rw [hlocal] at h
  cases h

theorem classified_credentialFile (e : TokenFile.Error) : (Error.credentialFile e).Classified :=
  .of_kind (k := .credentialFile) (by decide) rfl fun _ _ => beq_iff_eq

theorem classified_identity (e : IdentityError) : (Error.identity e).Classified :=
  .of_kind (k := .clientSecret) (by decide) rfl fun _ _ => beq_iff_eq

theorem classified_callback (e : CallbackError) : (Error.callback e).Classified :=
  .of_kind (k := .authorization) (by decide) rfl fun _ _ => beq_iff_eq

/-- A failure that is an authorization's, and maybe a cancellation too. -/
theorem classified_authorization {e : Error} {also : FailureKind → Bool}
    (hlocal : e.isLocal = false) (hisA : ∀ k, Failure.isA e k = (k == .authorization || also k))
    (halso : ∀ k, also k = true → k = .canceled) : e.Classified := by
  refine .of_kind (k := .authorization) (by decide) hlocal fun k hk => ?_
  rw [hisA, Bool.or_eq_true, beq_iff_eq]
  refine ⟨?_, .inl⟩
  rintro (h | h)
  · exact h
  · rw [halso k h] at hk
    exact absurd hk (by decide)

theorem classified_redeeming (e : GrantError) : (Error.redeeming e).Classified :=
  classified_authorization rfl (fun _ => rfl) fun _ => GrantError.isA_canceled

theorem classified_refreshing (e : GrantError) : (Error.refreshing e).Classified :=
  classified_authorization rfl (fun _ => rfl) fun _ => GrantError.isA_canceled

/-- A way to a credential: no file is touched, the credential is sound, and a failure is classified.
-/
structure Sourced (h : Host) (r : Except Error Credential × Host) : Prop where
  tree : r.2.tree = h.tree
  ok : ∀ c, r.1 = .ok c → c.token.Sound h.now ∧ c.token.Holds
  error : ∀ e, r.1 = .error e → e.Classified

theorem Sourced.of_error {h h₁ : Host} {e : Error} (ht : h₁.tree = h.tree) (he : e.Classified) :
    Sourced h (.error e, h₁) := by
  refine ⟨ht, ?_, ?_⟩
  · rintro c ⟨⟩
  · rintro e' ⟨⟩
    exact he

theorem Sourced.of_ok {h h₁ : Host} {c : Credential} (ht : h₁.tree = h.tree)
    (hsound : c.token.Sound h.now) (hholds : c.token.Holds) : Sourced h (.ok c, h₁) := by
  refine ⟨ht, ?_, ?_⟩
  · rintro c' ⟨⟩
    exact ⟨hsound, hholds⟩
  · rintro e ⟨⟩

theorem identity_error {o : Options} {t : Files.Tree} {e : Error} (h : identity o t = .error e) :
    ∃ i, e = .identity i := by
  simp only [identity, bind, Except.bind, pure, Except.pure, throw, throwThe,
    MonadExceptOf.throw] at h
  split_ifs at h
  · cases h
    exact ⟨_, rfl⟩
  · split at h
    · cases h
      exact ⟨_, rfl⟩
    · rename_i content _
      cases hread : readIdentity o.clientSecretPath content o.scopes with
      | error i =>
        rw [hread] at h
        cases h
        exact ⟨i, rfl⟩
      | ok id =>
        rw [hread] at h
        cases h

theorem visitPage_keeps (url state : Bytes) (h : Host) :
    (visitPage url state h).tree = h.tree ∧ (visitPage url state h).now = h.now := by
  unfold visitPage
  dsimp only
  split <;> exact ⟨rfl, rfl⟩

theorem launchBrowser_keeps (url state : Bytes) (h : Host) :
    (launchBrowser url state h).tree = h.tree ∧ (launchBrowser url state h).now = h.now := by
  unfold launchBrowser
  dsimp only
  split <;> exact visitPage_keeps url state _

theorem awaitCode_error {state : Bytes} {h : Host} {e : Error}
    (he : awaitCode state h = .error e) : e.Classified := by
  unfold awaitCode at he
  split at he
  · cases he
    exact .of_local rfl fun _ => rfl
  · split at he
    · obtain ⟨f, -, rfl⟩ := Outcome.mapError_eq_error.mp he
      exact classified_callback f
    · cases he
      exact classified_authorization rfl (fun _ => rfl) fun k hk => beq_iff_eq.mp hk

/-- A new credential comes from the token page alone. -/
theorem authorize_sourced (o : Options) (h : Host) : Sourced h (authorize o h) := by
  unfold authorize
  cases hid : identity o h.tree with
  | error e =>
    obtain ⟨i, rfl⟩ := identity_error hid
    exact .of_error rfl (classified_identity i)
  | ok id =>
    dsimp only
    split
    · exact .of_error rfl (.of_local rfl fun _ => rfl)
    · exact .of_error rfl (.of_local rfl fun _ => rfl)
    · generalize hopened : launchBrowser _ _ _ = opened
      have hkeeps : opened.tree = h.tree ∧ opened.now = h.now := by
        rw [← hopened]
        exact launchBrowser_keeps _ _ _
      cases hcode : awaitCode _ opened with
      | error e => exact .of_error hkeeps.1 (awaitCode_error hcode)
      | ok code =>
        dsimp only
        generalize hgot : redeem _ _ _ _ = got
        have hgranted : Granted Grant.token
            (opened.log .info "received authorization code, exchanging for token" []) got := by
          rw [← hgot]
          exact redeem_granted _ _ _ _
        obtain ⟨e | g, h₁⟩ := got
        · exact .of_error (hgranted.onlyWire.tree.trans hkeeps.1) (classified_redeeming e)
        · obtain ⟨hsound, haccess⟩ := hgranted.ok g rfl
          exact .of_ok (hgranted.onlyWire.tree.trans hkeeps.1) (hkeeps.2 ▸ hsound) (.inl haccess)

/-- A renewed credential comes from the token page alone. -/
theorem refresh_sourced (o : Options) (c : Credential) (h : Host) :
    Sourced h (refresh o c h) := by
  unfold refresh
  cases hid : identity o h.tree with
  | error e =>
    obtain ⟨i, rfl⟩ := identity_error hid
    exact .of_error rfl (classified_identity i)
  | ok id =>
    dsimp only
    generalize hgot : renew _ _ _ _ = got
    have hgranted : Granted (fun p : Token × Identity => p.1)
        (h.log .info "refreshing expired token" [("expired_at", .time c.token.expiry)]) got := by
      rw [← hgot]
      exact renew_granted _ _ _ _
    obtain ⟨e | ⟨t, id'⟩, h₁⟩ := got
    · exact .of_error hgranted.onlyWire.tree (classified_refreshing e)
    · obtain ⟨hsound, haccess⟩ := hgranted.ok (t, id') rfl
      exact .of_ok hgranted.onlyWire.tree hsound (.inl haccess)

/-- Looking at the saved credential touches no file. -/
theorem inspect_keeps (o : Options) (h : Host) :
    (inspect o h).2.tree = h.tree ∧ (inspect o h).2.now = h.now := by
  unfold inspect
  split
  · exact ⟨rfl, rfl⟩
  · exact ⟨rfl, rfl⟩
  · dsimp only
    split_ifs <;> exact ⟨rfl, rfl⟩

theorem inspect_error {o : Options} {h : Host} {e : Error} (he : (inspect o h).1 = .error e) :
    e.Classified := by
  unfold inspect at he
  split at he
  · cases he
    exact classified_credentialFile _
  · cases he
  · cases he

theorem inspect_ok {o : Options} {h : Host} {state : State} {c : Credential}
    (hr : (inspect o h).1 = .ok (state, some c)) : c.token.Sound h.now ∧ c.token.Holds := by
  unfold inspect at hr
  split at hr
  · cases hr
  · cases hr
  · rename_i c' hload
    cases hr
    exact TokenFile.load_sound hload

/-- Every way to a credential starts from what was saved. -/
theorem usable_sourced (o : Options) (state : State) {saved : Option Credential} {h : Host}
    (hsaved : ∀ c, saved = some c → c.token.Sound h.now ∧ c.token.Holds) :
    Sourced h (usable o state saved h) := by
  unfold usable
  split
  · rename_i c
    exact .of_ok rfl (hsaved c rfl).1 (hsaved c rfl).2
  · exact refresh_sourced o _ h
  · exact authorize_sourced o h

/-- How a run ends: before anything was saved, or with the outcome of saving a sound credential. -/
theorem obtain_cases (o : Options) (h : Host) :
    (∃ e h₁, obtain o h = (.error e, h₁) ∧ h₁.tree = h.tree ∧ e.Classified) ∨
      ∃ c digits, c.token.Sound h.now ∧ c.token.Holds ∧
        (obtain o h).2.tree =
          (TokenFile.save h.tree o.tokenPath (some c.token) c.scopes digits).final h.tree ∧
        (obtain o h).1 =
          ((TokenFile.save h.tree o.tokenPath (some c.token) c.scopes digits).result.mapError
            Error.saving).map fun _ => c := by
  have hkeeps := inspect_keeps o h
  have herror := @inspect_error o h
  have hok := @inspect_ok o h
  unfold obtain
  generalize inspect o h = inspected at hkeeps herror hok
  obtain ⟨e | ⟨state, saved⟩, h₁⟩ := inspected
  · exact .inl ⟨e, h₁, rfl, hkeeps.1, herror rfl⟩
  · dsimp only at hkeeps hok ⊢
    generalize hready : h₁.log _ _ _ = ready
    have hsame : ready.tree = h.tree ∧ ready.now = h.now := by
      rw [← hready]
      exact hkeeps
    have hsourced : Sourced ready (usable o state saved ready) := by
      refine usable_sourced o state fun c hc => ?_
      rw [hsame.2]
      exact hok (by rw [hc])
    generalize usable o state saved ready = found at hsourced
    obtain ⟨e | c, h₂⟩ := found
    · exact .inl ⟨e, h₂, rfl, hsourced.tree.trans hsame.1, hsourced.error e rfl⟩
    · obtain ⟨hsound, hholds⟩ := hsourced.ok c rfl
      have htree : h₂.tree = h.tree := hsourced.tree.trans hsame.1
      refine .inr ⟨c, h₂.entropy.digits, hsame.2 ▸ hsound, hholds, ?_⟩
      rw [← htree]
      dsimp only [saveTo]
      cases (TokenFile.save h₂.tree o.tokenPath (some c.token) c.scopes
        h₂.entropy.digits).result with
      | error e => exact ⟨rfl, rfl⟩
      | ok u => exact ⟨rfl, rfl⟩

/-- A run that fails changes no file, and its failure is of exactly one of the kinds of signing in,
unless this machine's own part failed. A run that returns a credential has put it, for the owner
only, where the token's path leads to and nowhere else, and loading the path gives it back. The
seconds of a clock's offset are all that a file can lose. -/
theorem obtain_all_or_nothing (o : Options) (h : Host) :
    (∀ e, (obtain o h).1 = .error e →
      SameFiles h.tree (obtain o h).2.tree ∧
        (e.isLocal = true → ∀ k ∈ signInKinds, Failure.isA e k = false) ∧
        (e.isLocal = false → ∃! k, k ∈ signInKinds ∧ Failure.isA e k = true)) ∧
    ∀ c, (obtain o h).1 = .ok c →
      (∃ target, (obtain o h).2.tree.locate o.tokenPath = .ok target ∧
        Replaces h.tree (obtain o h).2.tree target
          (.file 0o600 (TokenFile.encode c.token c.scopes))) ∧
      (c.IsText → ∃ scopes,
        TokenFile.load (obtain o h).2.tree o.tokenPath = .ok (some ⟨c.token.stored, scopes⟩) ∧
          scopes.getD [] = c.scopes.getD []) ∧
      (h.now.offset % 60 = 0 → c.token.stored = c.token) := by
  obtain ⟨e, h₁, hrun, htree, hclass⟩ | ⟨c, digits, hsound, hholds, htree, hrun⟩ := obtain_cases o h
  · rw [hrun]
    refine ⟨?_, ?_⟩
    · rintro e' ⟨⟩
      refine ⟨?_, hclass.none, hclass.one⟩
      rw [htree]
      exact (AddsDirs.refl h.tree).sameFiles
    · rintro c ⟨⟩
  · rw [hrun, htree]
    cases hsave : (TokenFile.save h.tree o.tokenPath (some c.token) c.scopes digits).result with
    | error e =>
      refine ⟨?_, ?_⟩
      · rintro e' ⟨⟩
        have hclass : (Error.saving e).Classified := .of_local rfl fun _ => rfl
        exact ⟨(TokenFile.save_error hsave).sameFiles, hclass.none, hclass.one⟩
      · rintro c' ⟨⟩
    | ok u =>
      refine ⟨?_, ?_⟩
      · rintro e ⟨⟩
      · rintro c' ⟨⟩
        exact ⟨(TokenFile.save_ok hsave).2,
          fun htext => TokenFile.load_of_save htext hholds hsound hsave, hsound.stored_eq⟩

/-- A client whose secret goes into the form. -/
def sampleOptions : Options where
  tokenPath := "token.json"
  scopes := ["drive"]
  clientId := "id"
  endpoint := some ⟨"http://idp/auth", "http://idp/token", 1⟩

/-- What the token page answers. -/
def samplePage : Http.Reply :=
  ⟨200, [("Content-Type", "application/json")],
    "\x7b\"access_token\":\"a\",\"refresh_token\":\"r\",\"expires_in\":3600\x7d", .complete⟩

/-- A login with nothing saved, on a listener and on a clock. -/
def sampleLogin (listener : Listener) (offset : Int) : Host where
  tree := .empty
  wire := .ofAnswers [.reply samplePage] false
  visit := ⟨[⟨"GET", fun state => text ["/?code=c&state=", state], 80⟩], .waits⟩
  listener := listener
  now := ⟨0, 0, offset⟩
  entropy := ⟨fun _ => "1", "s", "v", 8080⟩

/-- The credential of such a login. -/
def sampleCredential (offset : Int) : Credential :=
  ⟨⟨"a", [], "r", ⟨3600, 0, offset⟩, 3600⟩, some ["drive"]⟩

/-- A login that is granted is saved; one that is given up is a failed authorization and leaves the
files alone. -/
theorem sampleLogin_saved :
    (∃ scopes, TokenFile.load (obtain sampleOptions (sampleLogin .works 0)).2.tree "token.json" =
        .ok (some ⟨(sampleCredential 0).token, scopes⟩) ∧ scopes.getD [] = [utf8 "drive"]) ∧
      SameFiles .empty
        (obtain sampleOptions { sampleLogin .works 0 with visit := ⟨[], .cancels⟩ }).2.tree ∧
      ∃! k, k ∈ signInKinds ∧ Failure.isA Error.canceled k = true := by
  have hgranted : (obtain sampleOptions (sampleLogin .works 0)).1 = .ok (sampleCredential 0) := by
    decide +kernel
  have hcanceled : (obtain sampleOptions { sampleLogin .works 0 with visit := ⟨[], .cancels⟩ }).1 =
      .error .canceled := by
    decide +kernel
  have htext : (sampleCredential 0).IsText := ⟨by decide, by decide, by decide, by decide⟩
  obtain ⟨-, hload, hclock⟩ :=
    (obtain_all_or_nothing sampleOptions (sampleLogin .works 0)).2 _ hgranted
  obtain ⟨hfiles, -, hone⟩ :=
    (obtain_all_or_nothing sampleOptions
      { sampleLogin .works 0 with visit := ⟨[], .cancels⟩ }).1 _ hcanceled
  rw [hclock (by decide)] at hload
  exact ⟨hload htext, hfiles, hone rfl⟩

/-- A listener that is bound and then breaks is a failure of no kind, and a clock that is half a
minute off comes back from the file without it. -/
theorem sampleLogin_exceptions :
    ((obtain sampleOptions (sampleLogin (.cannotAccept "closed") 0)).1 =
        .error (.server "closed") ∧
      ∀ k ∈ signInKinds, Failure.isA (Error.server "closed") k = false) ∧
    (obtain sampleOptions (sampleLogin .works 30)).1 = .ok (sampleCredential 30) ∧
      TokenFile.load (obtain sampleOptions (sampleLogin .works 30)).2.tree "token.json" =
        .ok (some ⟨⟨"a", [], "r", ⟨3630, 0, 0⟩, 3600⟩, some ["drive"]⟩) := by
  refine ⟨⟨?_, ?_⟩, ?_, ?_⟩
  · decide +kernel
  · decide
  · decide +kernel
  · decide +kernel

end DocPull.Auth
