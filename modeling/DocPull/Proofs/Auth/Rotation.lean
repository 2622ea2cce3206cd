import DocPull.Proofs.Auth.Source

/-!
# What does not reach the disk

A source compares access tokens only. A token that was renewed under the same access token is not
written, so what else changed in it, its refresh token or its expiry, is in memory only.
-/
namespace DocPull.Auth

/-- The token that a file holds when every save succeeds: a token stays for as long as the access
token does not change. -/
def firstIssued (t₀ : Token) : List Call → Token
  | [] => t₀
  | call :: calls =>
    match call.result with
    | .error _ => firstIssued t₀ calls
    | .ok t =>
      if (firstIssued t₀ calls).accessToken = t.accessToken then firstIssued t₀ calls else t.stored

/-- Whether what a call had to save was saved. -/
def Call.Succeeds (path : Bytes) (scopes : Option (List Bytes)) (call : Call) : Prop :=
  ∀ t, call.result = .ok t → held? path call.world ≠ some t.accessToken →
    (saveTo path ⟨t, scopes⟩ call.world).1 = .ok ()

/-- One more call changes the token in the file only with the access token. -/
theorem fileToken_cons {path : Bytes} {c : Credential} {call : Call} {calls : List Call}
    (hheld : held? path call.world = some (fileToken path c calls).accessToken)
    (hsaves : call.Succeeds path c.scopes) :
    fileToken path c (call :: calls) =
      match call.result with
      | .error _ => fileToken path c calls
      | .ok t => if (fileToken path c calls).accessToken = t.accessToken then fileToken path c calls
        else t.stored := by
  have hlast : lastSaved? path c.scopes (call :: calls) =
      (Call.saved? path c.scopes call).or (lastSaved? path c.scopes calls) := by
    rw [lastSaved?, List.findSome?_cons]
    cases Call.saved? path c.scopes call <;> rfl
  cases hresult : call.result with
  | error e =>
    have hnone : Call.saved? path c.scopes call = none := by rw [Call.saved?, hresult]
    rw [fileToken, hlast, hnone]
    rfl
  | ok t =>
    by_cases hsame : (fileToken path c calls).accessToken = t.accessToken
    · have hnone : Call.saved? path c.scopes call = none := by
        simp [Call.saved?, hresult, hheld, hsame]
      simp only [if_pos hsame]
      rw [fileToken, hlast, hnone]
      rfl
    · have hother : held? path call.world ≠ some t.accessToken := by
        rw [hheld]
        exact fun heq => hsame (Option.some.inj heq)
      have hsaved : Call.saved? path c.scopes call = some t := by
        simp [Call.saved?, hresult, hother, hsaves t hresult hother]
      simp only [if_neg hsame]
      rw [fileToken, hlast, hsaved]
      rfl

theorem Run.fileToken_eq {path original : Bytes} {c : Credential} {r₀ : Renewal} {s : Source}
    {h₀ h : Host} {calls : List Call} (hrun : Run path (.renewing r₀) h₀ calls s h)
    (hstart : Synced path c original [] r₀ h₀)
    (hscopes : ∀ s ∈ c.scopes.getD [], TextUnit.valid s = true)
    (htext : ∀ call ∈ calls, ∀ t, call.result = .ok t → t.IsText)
    (hsaves : ∀ call ∈ calls, call.Succeeds path c.scopes) :
    fileToken path c calls = firstIssued c.token calls := by
  induction hrun with
  | start => rfl
  | wait hrun hread ih => exact ih htext hsaves
  | @call calls s h hrun ih =>
    rw [List.forall_mem_cons] at htext hsaves
    obtain ⟨r, -, hsynced⟩ := hrun.synced hstart hscopes htext.2
    have hheld : held? path (Call.mk h (s.token h).1).world =
        some (fileToken path c calls).accessToken := hsynced.held_eq_file
    rw [fileToken_cons hheld hsaves.1, ih htext.2 hsaves.2]
    rfl

/-- A file gives back all of a token that was handed out on a clock of whole minutes. -/
theorem Run.stored_eq {path original : Bytes} {c : Credential} {r₀ : Renewal} {s : Source}
    {h₀ h w : Host} {t : Token} {earlier : List Call}
    (hrun : Run path (.renewing r₀) h₀ (⟨w, .ok t⟩ :: earlier) s h)
    (hstart : Synced path c original [] r₀ h₀)
    (hscopes : ∀ s ∈ c.scopes.getD [], TextUnit.valid s = true)
    (htext : ∀ call ∈ earlier, ∀ t, call.result = .ok t → t.IsText)
    (hclock : WholeMinutes (⟨w, .ok t⟩ :: earlier)) : t.stored = t := by
  obtain ⟨s', hbefore, hresult⟩ := hrun.before (List.nil_append _).symm
  obtain ⟨r, rfl, hsynced⟩ := hbefore.synced hstart hscopes htext
  obtain ⟨r', hr, hcurrent⟩ := (token_called r w).renewed hresult.symm
  obtain ⟨-, -, hminutes⟩ := hsynced.renewed hr (.ok t)
  rw [← hcurrent, Token.stored, Instant.onMinutes_eq_self (hminutes hclock)]

/-- When every save succeeds, the file holds a token for as long as the access token does not
change. So after a call the file has the refresh token and the expiry that the call handed out
exactly if the access token is a new one, or if the token in the file had them before. -/
theorem run_file_first_issued {o : Options} {listens : Bool} {c : Credential} {id : Identity}
    {h₀ h : Host} {calls : List Call} {s : Source} (hid : identity o h₀.tree = .ok id)
    (hload : TokenFile.load h₀.tree o.tokenPath = .ok (some c))
    (hrun : Run o.tokenPath (sourceFor o listens c h₀).1 (sourceFor o listens c h₀).2 calls s h)
    (htext : ∀ call ∈ calls, ∀ t, call.result = .ok t → t.IsText)
    (hsaves : ∀ call ∈ calls, call.Succeeds o.tokenPath c.scopes) :
    ∃ file, TokenFile.load h.tree o.tokenPath = .ok (some file) ∧
      file.token = firstIssued c.token calls ∧ file.scopes.getD [] = c.scopes.getD [] ∧
      ∀ w t earlier, calls = ⟨w, .ok t⟩ :: earlier → WholeMinutes calls →
        (file.token.refreshToken = t.refreshToken ∧ file.token.expiry = t.expiry ↔
          ((firstIssued c.token earlier).accessToken = t.accessToken →
            (firstIssued c.token earlier).refreshToken = t.refreshToken ∧
              (firstIssued c.token earlier).expiry = t.expiry)) := by
  obtain ⟨r₀, original, hsource, -, hstart⟩ := sourceFor_synced listens hid hload
  have hscopes := TokenFile.valid_of_load hload
  rw [hsource] at hrun
  obtain ⟨r, rfl, hsynced⟩ := hrun.synced hstart hscopes htext
  obtain ⟨scopes, hfile, hsame⟩ := hsynced.load_eq
  have hfirst := hrun.fileToken_eq hstart hscopes htext hsaves
  refine ⟨_, hfile, hfirst, hsame, ?_⟩
  rintro w t earlier rfl hclock
  rw [List.forall_mem_cons] at htext
  have hstored := hrun.stored_eq hstart hscopes htext.2 hclock
  dsimp only
  rw [hfirst, firstIssued]
  dsimp only
  by_cases haccess : (firstIssued c.token earlier).accessToken = t.accessToken
  · simp [haccess]
  · simp [haccess, hstored]

/-- A token page that gives out the same access token with another refresh token. -/
def rotatingPage : Http.Reply :=
  ⟨200, [("Content-Type", "application/json")],
    "\x7b\"access_token\":\"old\",\"refresh_token\":\"r2\",\"expires_in\":3600\x7d", .complete⟩

/-- What such a page grants. -/
def rotatedToken : Token := ⟨"old", [], "r2", ⟨7600, 0, 0⟩, 3600⟩

/-- The new refresh token is handed out and does not reach the file. -/
theorem rotatedToken_unsaved :
    let world := nestedHost 0o700 rotatingPage
    let out := (sourceFor nestedOptions true lapsedCredential world).1.token world
    out.1 = .ok rotatedToken ∧
      ∃ file, TokenFile.load out.2.2.tree nestedOptions.tokenPath = .ok (some file) ∧
        ¬(file.token.refreshToken = rotatedToken.refreshToken ∧
          file.token.expiry = rotatedToken.expiry) := by
  intro world out
  have hgranted : out.1 = .ok rotatedToken := by decide +kernel
  have hid : identity nestedOptions world.tree =
      .ok ⟨"id", [], [], ["drive"], ⟨"http://idp/auth", "http://idp/token", 1⟩⟩ := by decide
  have hload : TokenFile.load world.tree nestedOptions.tokenPath =
      .ok (some lapsedCredential) := by decide +kernel
  have htext : ∀ call ∈ [Call.mk world (.ok rotatedToken)],
      ∀ t, call.result = .ok t → t.IsText := by
    rintro call (_ | ⟨_, ⟨⟩⟩) t ⟨⟩
    exact ⟨by decide, by decide, by decide, by decide⟩
  have hsaves : ∀ call ∈ [Call.mk world (.ok rotatedToken)],
      call.Succeeds nestedOptions.tokenPath lapsedCredential.scopes := by
    rintro call (_ | ⟨_, ⟨⟩⟩) t ⟨⟩ hother
    exact absurd (by decide +kernel) hother
  have hclock : WholeMinutes [Call.mk world (.ok rotatedToken)] := by
    rintro call (_ | ⟨_, ⟨⟩⟩)
    rfl
  obtain ⟨file, hfile, -, -, hiff⟩ :=
    run_file_first_issued hid hload (Run.start.called hgranted) htext hsaves
  refine ⟨hgranted, file, hfile, fun hall => ?_⟩
  have hbefore := (hiff _ rotatedToken [] rfl hclock).mp hall rfl
  exact absurd hbefore.1 (by decide)

end DocPull.Auth
