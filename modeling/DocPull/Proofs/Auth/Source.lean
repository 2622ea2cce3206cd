import DocPull.Auth.Session
import DocPull.Proofs.Auth.Obtain

/-!
# What a source of tokens keeps on disk

A source hands out its token while it is valid and renews it after that. It writes a token back when
the access token is another one than it wrote last. So the token file always holds the access token
that the source remembers, and it is the last token whose save succeeded.
-/
namespace DocPull.Auth

open Http

/-- Whether all texts of a token are UTF-8. -/
def Token.IsText (t : Token) : Prop := Credential.IsText ⟨t, none⟩

theorem Token.IsText.withScopes {t : Token} (h : t.IsText) {scopes : Option (List Bytes)}
    (hscopes : ∀ s ∈ scopes.getD [], TextUnit.valid s = true) : Credential.IsText ⟨t, scopes⟩ :=
  ⟨h.accessToken, h.tokenType, h.refreshToken, hscopes⟩

section Save

variable {path : Bytes} {c : Credential} {h : Host}

theorem read_of_saveTo (hsave : (saveTo path c h).1 = .ok ()) :
    (saveTo path c h).2.tree.read path = .ok (TokenFile.encode c.token c.scopes) :=
  TokenFile.read_of_save hsave

/-- A failed save leaves what can be read as it was. -/
theorem read_of_saveTo_error {e : TokenFile.Error} (hsave : (saveTo path c h).1 = .error e)
    {s : Bytes} (hread : h.tree.read path = .ok s) :
    (saveTo path c h).2.tree.read path = .ok s :=
  (TokenFile.save_error hsave).read hread

end Save

/-- What getting the token in use leaves as it was, and what is known of the token. -/
structure Renewed (r : Renewal) (now : Instant) (r' : Renewal) : Prop where
  path : r'.path = r.path
  scopes : r'.scopes = r.scopes
  saved : r'.saved = r.saved
  token : r'.current = r.current ∨ r'.current.Sound now ∧ r'.current.accessToken ≠ []

/-- Getting the token in use touches the network only. -/
theorem current?_cases (r : Renewal) (h : Host) :
    (∃ e w, r.current? h = (.error e, { h with wire := w })) ∨
      ∃ r' w, r.current? h = (.ok r', { h with wire := w }) ∧ Renewed r h.now r' := by
  unfold Renewal.current?
  split_ifs
  · exact .inr ⟨r, h.wire, rfl, rfl, rfl, rfl, .inl rfl⟩
  · have hgranted := renew_granted r.listens r.identity r.refreshToken h
    generalize renew r.listens r.identity r.refreshToken h = got at hgranted
    obtain ⟨w, hw, -⟩ := hgranted.onlyWire
    obtain ⟨e | ⟨t, id⟩, h₁⟩ := got
    · subst hw
      exact .inl ⟨e, w, rfl⟩
    · subst hw
      exact .inr ⟨_, w, rfl, rfl, rfl, rfl, .inr (hgranted.ok (t, id) rfl)⟩

/-- Everything a call of a source can come to: no token was granted; or there is a token, and the
source remembers its access token, or it was saved, or it could not be saved. -/
inductive Called (r : Renewal) (h : Host) : Except Error Token × Source × Host → Prop
  | refused {e : GrantError} {h' : Host} (htree : h'.tree = h.tree) :
    Called r h (.error (.renewing e), .renewing r, h')
  | known {r' : Renewal} {h' : Host} (hr : Renewed r h.now r')
    (hsame : r'.current.accessToken = r.saved) (htree : h'.tree = h.tree) :
    Called r h (.ok r'.current, .renewing r', h')
  | saved {r' : Renewal} {h' : Host} (hr : Renewed r h.now r')
    (hnew : r'.current.accessToken ≠ r.saved)
    (hsave : (saveTo r.path ⟨r'.current, r.scopes⟩ h).1 = .ok ())
    (htree : h'.tree = (saveTo r.path ⟨r'.current, r.scopes⟩ h).2.tree) :
    Called r h (.ok r'.current, .renewing { r' with saved := r'.current.accessToken }, h')
  | unsaved {r' : Renewal} {h' : Host} {e : TokenFile.Error} (hr : Renewed r h.now r')
    (hnew : r'.current.accessToken ≠ r.saved)
    (hsave : (saveTo r.path ⟨r'.current, r.scopes⟩ h).1 = .error e)
    (htree : h'.tree = (saveTo r.path ⟨r'.current, r.scopes⟩ h).2.tree) :
    Called r h (.ok r'.current, .renewing r', h')

/-- What is written depends on the files only, whatever happened to the network before. -/
theorem persist_new {r : Renewal} (hnew : r.current.accessToken ≠ r.saved) (h : Host) (w : Wire) :
    ∃ h', r.persist { h with wire := w } =
        (match (saveTo r.path ⟨r.current, r.scopes⟩ h).1 with
          | .error _ => r
          | .ok _ => { r with saved := r.current.accessToken }, h') ∧
      h'.tree = (saveTo r.path ⟨r.current, r.scopes⟩ h).2.tree := by
  unfold Renewal.persist
  rw [if_neg hnew]
  dsimp only
  generalize hlogged : Host.log _ _ _ { h with wire := w } = h₁
  have hsave : saveTo r.path ⟨r.current, r.scopes⟩ h₁ =
      ((saveTo r.path ⟨r.current, r.scopes⟩ h).1,
        { h₁ with tree := (saveTo r.path ⟨r.current, r.scopes⟩ h).2.tree }) := by
    rw [← hlogged]
    rfl
  rw [hsave]
  cases (saveTo r.path ⟨r.current, r.scopes⟩ h).1 with
  | error e => exact ⟨_, rfl, rfl⟩
  | ok u => exact ⟨_, rfl, rfl⟩

theorem token_called (r : Renewal) (h : Host) : Called r h ((Source.renewing r).token h) := by
  unfold Source.token
  dsimp only
  obtain ⟨e, w, hcurrent⟩ | ⟨r', w, hcurrent, hr⟩ := current?_cases r h
  · rw [hcurrent]
    exact .refused rfl
  · rw [hcurrent]
    dsimp only
    by_cases hsame : r'.current.accessToken = r.saved
    · rw [Renewal.persist, if_pos (hsame.trans hr.saved.symm)]
      exact .known hr hsame rfl
    · have hwritten : saveTo r'.path ⟨r'.current, r'.scopes⟩ h =
          saveTo r.path ⟨r'.current, r.scopes⟩ h := by
        rw [hr.path, hr.scopes]
      obtain ⟨h', hpersist, htree⟩ := persist_new (hr.saved ▸ hsame) h w
      rw [hwritten] at hpersist htree
      rw [hpersist]
      cases hsave : (saveTo r.path ⟨r'.current, r.scopes⟩ h).1 with
      | error e => exact .unsaved hr hsame hsave htree
      | ok u =>
        dsimp only
        exact .saved hr hsame hsave htree

/-- A token that is handed out is the one in use from then on. -/
theorem Called.renewed {r : Renewal} {h : Host} {out : Except Error Token × Source × Host}
    (hout : Called r h out) {t : Token} (ht : out.1 = .ok t) :
    ∃ r', Renewed r h.now r' ∧ r'.current = t := by
  cases hout with
  | refused htree => cases ht
  | known hr hsame htree =>
    cases ht
    exact ⟨_, hr, rfl⟩
  | saved hr hnew hsave htree =>
    cases ht
    exact ⟨_, hr, rfl⟩
  | unsaved hr hnew hsave htree =>
    cases ht
    exact ⟨_, hr, rfl⟩

/-- One call of a source: the world it was made in, and what came of it. -/
structure Call where
  world : Host
  result : Except Error Token

/-- What a source can go through, the last call first. Between calls the world may become any
other one in which the token file reads the same. -/
inductive Run (path : Bytes) (s₀ : Source) (h₀ : Host) : List Call → Source → Host → Prop
  | start : Run path s₀ h₀ [] s₀ h₀
  | wait {calls : List Call} {s : Source} {h h' : Host} (hrun : Run path s₀ h₀ calls s h)
    (hread : h'.tree.read path = h.tree.read path) : Run path s₀ h₀ calls s h'
  | call {calls : List Call} {s : Source} {h : Host} (hrun : Run path s₀ h₀ calls s h) :
    Run path s₀ h₀ (⟨h, (s.token h).1⟩ :: calls) (s.token h).2.1 (s.token h).2.2

theorem Run.called {path : Bytes} {s₀ s : Source} {h₀ h : Host} {calls : List Call}
    (hrun : Run path s₀ h₀ calls s h) {result : Except Error Token}
    (hresult : (s.token h).1 = result) :
    Run path s₀ h₀ (⟨h, result⟩ :: calls) (s.token h).2.1 (s.token h).2.2 := by
  subst hresult
  exact hrun.call

/-- The access token in the token file. -/
def held? (path : Bytes) (h : Host) : Option Bytes :=
  match TokenFile.load h.tree path with
  | .ok (some c) => some c.token.accessToken
  | _ => none

/-- The token of a call that was saved: the file had another access token, and it was written. -/
def Call.saved? (path : Bytes) (scopes : Option (List Bytes)) (call : Call) : Option Token :=
  match call.result with
  | .error _ => none
  | .ok t =>
    if held? path call.world = some t.accessToken then none
    else
      match (saveTo path ⟨t, scopes⟩ call.world).1 with
      | .ok _ => some t
      | .error _ => none

/-- The last token whose save succeeded. -/
def lastSaved? (path : Bytes) (scopes : Option (List Bytes)) (calls : List Call) : Option Token :=
  calls.findSome? (Call.saved? path scopes)

/-- The token that the file gives back: the last one whose save succeeded, or the original one. -/
def fileToken (path : Bytes) (c : Credential) (calls : List Call) : Token :=
  ((lastSaved? path c.scopes calls).map Token.stored).getD c.token

/-- Whether the clocks of some calls are whole minutes from UTC. -/
def WholeMinutes (calls : List Call) : Prop := ∀ call ∈ calls, call.world.now.offset % 60 = 0

theorem WholeMinutes.tail {call : Call} {calls : List Call} (h : WholeMinutes (call :: calls)) :
    WholeMinutes calls :=
  fun c hc => h c (List.mem_cons_of_mem _ hc)

/-- What every run of a source keeps up, for a source of a credential that was read from a text. -/
structure Synced (path : Bytes) (c : Credential) (original : Bytes) (calls : List Call)
    (r : Renewal) (h : Host) : Prop where
  samePath : r.path = path
  sameScopes : r.scopes = c.scopes
  sound : ∃ now, r.current.Sound now
  holds : r.current.Holds
  clock : WholeMinutes calls → r.current.expiry.offset % 60 = 0
  /-- The source remembers the access token in the file. -/
  marker : r.saved = (fileToken path c calls).accessToken
  /-- The file can be read. -/
  file : ∃ s scopes, h.tree.read path = .ok s ∧
    TokenFile.decode path s = .ok ⟨fileToken path c calls, scopes⟩ ∧
    scopes.getD [] = c.scopes.getD []
  /-- It is the original one while no save has succeeded. -/
  untouched : lastSaved? path c.scopes calls = none → h.tree.read path = .ok original
  /-- After that it is the last token that was saved. -/
  written : ∀ t, lastSaved? path c.scopes calls = some t →
    h.tree.read path = .ok (TokenFile.encode t c.scopes) ∧ (WholeMinutes calls → t.stored = t)

namespace Synced

variable {path original : Bytes} {c : Credential} {calls : List Call} {r r' : Renewal}
  {h h' : Host}

theorem load_eq (hs : Synced path c original calls r h) :
    ∃ scopes, TokenFile.load h.tree path = .ok (some ⟨fileToken path c calls, scopes⟩) ∧
      scopes.getD [] = c.scopes.getD [] := by
  obtain ⟨s, scopes, hread, hdecode, hscopes⟩ := hs.file
  refine ⟨scopes, ?_, hscopes⟩
  rw [TokenFile.load_of_read hread, hdecode]
  rfl

theorem held_eq_file (hs : Synced path c original calls r h) :
    held? path h = some (fileToken path c calls).accessToken := by
  obtain ⟨scopes, hload, -⟩ := hs.load_eq
  rw [held?, hload]

theorem held_eq (hs : Synced path c original calls r h) : held? path h = some r.saved := by
  rw [hs.held_eq_file, hs.marker]

theorem held_ne (hs : Synced path c original calls r h) {access : Bytes} (hnew : access ≠ r.saved) :
    held? path h ≠ some access := by
  rw [hs.held_eq]
  exact fun heq => hnew (Option.some.inj heq).symm

/-- Time passes. -/
theorem wait (hs : Synced path c original calls r h)
    (hread : h'.tree.read path = h.tree.read path) : Synced path c original calls r h' := by
  obtain ⟨hpath, hscopes, hsound, hholds, hclock, hmarker, hfile, huntouched, hwritten⟩ := hs
  rw [← hread] at hfile huntouched hwritten
  exact ⟨hpath, hscopes, hsound, hholds, hclock, hmarker, hfile, huntouched, hwritten⟩

/-- A token that was renewed is as good as the one before. -/
theorem renewed (hs : Synced path c original calls r h) (hr : Renewed r h.now r')
    (result : Except Error Token) :
    (∃ now, r'.current.Sound now) ∧ r'.current.Holds ∧
      (WholeMinutes (⟨h, result⟩ :: calls) → r'.current.expiry.offset % 60 = 0) := by
  rcases hr.token with hsame | ⟨hsound, haccess⟩
  · rw [hsame]
    exact ⟨hs.sound, hs.holds, fun hclock => hs.clock hclock.tail⟩
  · refine ⟨⟨h.now, hsound⟩, .inl haccess, fun hclock => ?_⟩
    rcases hsound.offset with hzero | hnow
    · exact hzero
    · rw [hnow]
      exact hclock _ List.mem_cons_self

/-- A call that writes nothing keeps everything up, when the source still remembers the same and the
file reads as it did. -/
theorem call_unsaved (hs : Synced path c original calls r h) {result : Except Error Token}
    (hr : Renewed r h.now r') (hnone : Call.saved? path c.scopes ⟨h, result⟩ = none)
    (hread : ∀ s, h.tree.read path = .ok s → h'.tree.read path = .ok s) :
    Synced path c original (⟨h, result⟩ :: calls) r' h' := by
  have hlast : lastSaved? path c.scopes (⟨h, result⟩ :: calls) =
      lastSaved? path c.scopes calls := by
    rw [lastSaved?, List.findSome?_cons, hnone]
    rfl
  have htoken : fileToken path c (⟨h, result⟩ :: calls) = fileToken path c calls := by
    rw [fileToken, hlast, fileToken]
  obtain ⟨hsound, hholds, hclock⟩ := hs.renewed hr result
  refine ⟨hr.path.trans hs.samePath, hr.scopes.trans hs.sameScopes, hsound, hholds, hclock,
    ?_, ?_, ?_, ?_⟩
  · rw [htoken, hr.saved, hs.marker]
  · obtain ⟨s, scopes, hs', hdecode, hscopes⟩ := hs.file
    rw [htoken]
    exact ⟨s, scopes, hread s hs', hdecode, hscopes⟩
  · rw [hlast]
    exact fun hnone => hread _ (hs.untouched hnone)
  · rw [hlast]
    intro t ht
    obtain ⟨hfile, hminutes⟩ := hs.written t ht
    exact ⟨hread _ hfile, fun hclock => hminutes hclock.tail⟩

/-- A call that saves its token makes it the one in the file. -/
theorem call_saved (hs : Synced path c original calls r h)
    (hscopes : ∀ s ∈ c.scopes.getD [], TextUnit.valid s = true) (hr : Renewed r h.now r')
    (hnew : r'.current.accessToken ≠ r.saved)
    (hsave : (saveTo path ⟨r'.current, c.scopes⟩ h).1 = .ok ())
    (htree : h'.tree = (saveTo path ⟨r'.current, c.scopes⟩ h).2.tree) (htext : r'.current.IsText) :
    Synced path c original (⟨h, .ok r'.current⟩ :: calls)
      { r' with saved := r'.current.accessToken } h' := by
  have hlast : lastSaved? path c.scopes (⟨h, .ok r'.current⟩ :: calls) = some r'.current := by
    simp [lastSaved?, Call.saved?, hs.held_ne hnew, hsave]
  obtain ⟨⟨now, hsound⟩, hholds, hclock⟩ := hs.renewed hr (.ok r'.current)
  have hread : h'.tree.read path = .ok (TokenFile.encode r'.current c.scopes) := by
    rw [htree]
    exact read_of_saveTo hsave
  obtain ⟨scopes, hdecode, hsame⟩ := TokenFile.decode_encode (htext.withScopes hscopes) hholds
    hsound (TokenFile.save_ok hsave).1 path
  have htoken : fileToken path c (⟨h, .ok r'.current⟩ :: calls) = r'.current.stored := by
    rw [fileToken, hlast]
    rfl
  refine ⟨hr.path.trans hs.samePath, hr.scopes.trans hs.sameScopes, ⟨now, hsound⟩, hholds, hclock,
    ?_, ?_, ?_, ?_⟩
  · rw [htoken]
    rfl
  · rw [htoken]
    exact ⟨_, scopes, hread, hdecode, hsame⟩
  · rw [hlast]
    rintro ⟨⟩
  · rw [hlast]
    rintro t ⟨⟩
    refine ⟨hread, fun hminutes => ?_⟩
    rw [Token.stored, Instant.onMinutes_eq_self (hclock hminutes)]

/-- What one call keeps up. -/
theorem call (hs : Synced path c original calls r h)
    (hscopes : ∀ s ∈ c.scopes.getD [], TextUnit.valid s = true)
    {out : Except Error Token × Source × Host} (hout : Called r h out)
    (htext : ∀ t, out.1 = .ok t → t.IsText) :
    ∃ r', out.2.1 = .renewing r' ∧ Synced path c original (⟨h, out.1⟩ :: calls) r' out.2.2 := by
  -- Whether a call counts as one that saved is told from the file. The source looks at what it
  -- remembers instead, which is the same by the invariant.
  have hheld := hs.held_eq
  cases hout with
  | refused htree =>
    refine ⟨r, rfl, hs.call_unsaved ⟨rfl, rfl, rfl, .inl rfl⟩ rfl ?_⟩
    intro s hread
    rw [htree]
    exact hread
  | @known r' h' hr hsame htree =>
    refine ⟨r', rfl, hs.call_unsaved hr ?_ ?_⟩
    · rw [Call.saved?]
      exact if_pos (hheld.trans (congrArg some hsame.symm))
    · intro s hread
      rw [htree]
      exact hread
  | @unsaved r' h' e hr hnew hsave htree =>
    rw [hs.samePath, hs.sameScopes] at hsave htree
    refine ⟨r', rfl, hs.call_unsaved hr ?_ ?_⟩
    · simp only [Call.saved?, hsave, ite_self]
    · intro s hread
      rw [htree]
      exact read_of_saveTo_error hsave hread
  | @saved r' h' hr hnew hsave htree =>
    rw [hs.samePath, hs.sameScopes] at hsave htree
    exact ⟨_, rfl, hs.call_saved hscopes hr hnew hsave htree (htext _ rfl)⟩

end Synced

/-- What every run keeps up. -/
theorem Run.synced {path original : Bytes} {c : Credential} {r₀ : Renewal} {s : Source}
    {h₀ h : Host} {calls : List Call} (hrun : Run path (.renewing r₀) h₀ calls s h)
    (hstart : Synced path c original [] r₀ h₀)
    (hscopes : ∀ s ∈ c.scopes.getD [], TextUnit.valid s = true)
    (htext : ∀ call ∈ calls, ∀ t, call.result = .ok t → t.IsText) :
    ∃ r, s = .renewing r ∧ Synced path c original calls r h := by
  induction hrun with
  | start => exact ⟨r₀, rfl, hstart⟩
  | wait hrun hread ih =>
    obtain ⟨r, hr, hsynced⟩ := ih htext
    exact ⟨r, hr, hsynced.wait hread⟩
  | call hrun ih =>
    rw [List.forall_mem_cons] at htext
    obtain ⟨r, rfl, hsynced⟩ := ih htext.2
    exact hsynced.call hscopes (token_called r _) htext.1

/-- A source starts with what the file holds. -/
theorem sourceFor_synced {o : Options} (listens : Bool) {c : Credential} {h : Host}
    {id : Identity} (hid : identity o h.tree = .ok id)
    (hload : TokenFile.load h.tree o.tokenPath = .ok (some c)) :
    ∃ r original, sourceFor o listens c h = (.renewing r, h) ∧
      h.tree.read o.tokenPath = .ok original ∧ Synced o.tokenPath c original [] r h := by
  obtain ⟨original, hread, hdecode⟩ := TokenFile.read_of_load hload
  obtain ⟨hsound, hholds⟩ : c.token.Sound Instant.unset ∧ c.token.Holds :=
    TokenFile.load_sound hload
  have hminutes : c.token.expiry.offset % 60 = 0 := by
    rcases hsound.offset with hzero | hunset
    · exact hzero
    · rw [hunset]
      decide
  refine ⟨⟨id, c.token, c.token.refreshToken, c.token.accessToken, c.scopes, o.tokenPath, listens⟩,
    original, ?_, hread, rfl, rfl, ⟨_, hsound⟩, hholds, fun _ => hminutes, rfl,
    ⟨original, c.scopes, hread, hdecode, rfl⟩, fun _ => hread, ?_⟩
  · rw [sourceFor, hid]
  · rintro t ⟨⟩

/-- What a call does to the file when it hands out a token. -/
structure Persists (path : Bytes) (scopes : Option (List Bytes)) (h : Host) (t : Token)
    (h' : Host) : Prop where
  /-- A token whose access token is in the file is not written. -/
  known : held? path h = some t.accessToken → h'.tree = h.tree
  /-- Any other one is tried to be saved. -/
  tried : held? path h ≠ some t.accessToken → h'.tree = (saveTo path ⟨t, scopes⟩ h).2.tree
  /-- It is in the file if that is possible. -/
  written : held? path h ≠ some t.accessToken → (saveTo path ⟨t, scopes⟩ h).1 = .ok () →
    h'.tree.read path = .ok (TokenFile.encode t scopes)
  /-- If it is not, the file stays as it is. -/
  kept : held? path h ≠ some t.accessToken → ∀ e, (saveTo path ⟨t, scopes⟩ h).1 = .error e →
    h'.tree.read path = h.tree.read path

theorem Synced.persists {path original : Bytes} {c : Credential} {calls : List Call} {r : Renewal}
    {h : Host} (hs : Synced path c original calls r h) {t : Token} {s : Source} {h' : Host}
    (hout : Called r h (.ok t, s, h')) : Persists path c.scopes h t h' := by
  cases hout with
  | known hr hsame htree =>
    have hin : held? path h = some _ := hs.held_eq.trans (congrArg some hsame.symm)
    exact ⟨fun _ => htree, fun hother => absurd hin hother, fun hother => absurd hin hother,
      fun hother => absurd hin hother⟩
  | saved hr hnew hsave htree =>
    rw [hs.samePath, hs.sameScopes] at hsave htree
    refine ⟨fun hin => absurd hin (hs.held_ne hnew), fun _ => htree, fun _ _ => ?_, ?_⟩
    · rw [htree]
      exact read_of_saveTo hsave
    · intro _ e he
      rw [hsave] at he
      cases he
  | unsaved hr hnew hsave htree =>
    rw [hs.samePath, hs.sameScopes] at hsave htree
    refine ⟨fun hin => absurd hin (hs.held_ne hnew), fun _ => htree, fun _ hok => ?_, ?_⟩
    · rw [hsave] at hok
      cases hok
    · intro _ e he
      obtain ⟨s, -, hread, -, -⟩ := hs.file
      rw [htree, hread]
      exact read_of_saveTo_error hsave hread

/-- Every call of a run was made by the source that the calls before it led to. -/
theorem Run.before {path : Bytes} {s₀ s : Source} {h₀ h : Host} {calls more earlier : List Call}
    {call : Call} (hrun : Run path s₀ h₀ calls s h) (hcalls : calls = more ++ call :: earlier) :
    ∃ s', Run path s₀ h₀ earlier s' call.world ∧ call.result = (s'.token call.world).1 := by
  induction hrun generalizing more with
  | start => simp at hcalls
  | wait hrun hread ih => exact ih hcalls
  | @call calls s h hrun ih =>
    cases more with
    | nil =>
      cases hcalls
      exact ⟨s, hrun, rfl⟩
    | cons last more =>
      rw [List.cons_append, List.cons.injEq] at hcalls
      exact ih hcalls.2

/-- A token that could not be saved is not in the file until one with its access token is saved. -/
theorem Synced.held_ne_of_unsaved {path original : Bytes} {c : Credential} {r r' : Renewal}
    {h w : Host} {t : Token} {more earlier : List Call} {e : TokenFile.Error}
    (hs : Synced path c original (more ++ ⟨w, .ok t⟩ :: earlier) r h)
    (hs' : Synced path c original earlier r' w) (hother : held? path w ≠ some t.accessToken)
    (hfailed : (saveTo path ⟨t, c.scopes⟩ w).1 = .error e)
    (hmore : ∀ call ∈ more, ∀ t', Call.saved? path c.scopes call = some t' →
      t'.accessToken ≠ t.accessToken) :
    held? path h ≠ some t.accessToken := by
  have hnone : Call.saved? path c.scopes ⟨w, .ok t⟩ = none := by
    simp only [Call.saved?, hfailed, ite_self]
  have hlast : lastSaved? path c.scopes (more ++ ⟨w, .ok t⟩ :: earlier) =
      (lastSaved? path c.scopes more).or (lastSaved? path c.scopes earlier) := by
    rw [lastSaved?, List.findSome?_append, List.findSome?_cons, hnone]
    rfl
  rw [hs.held_eq_file, fileToken, hlast]
  cases hsince : lastSaved? path c.scopes more with
  | none =>
    rw [hs'.held_eq_file] at hother
    exact hother
  | some t' =>
    obtain ⟨call, hcall, hsaved⟩ := List.exists_of_findSome?_eq_some hsince
    exact fun heq => hmore call hcall t' hsaved (Option.some.inj heq)

/-- After every run of a source that was made for the credential in the token file, the source
remembers the access token in the file, and the file is the original one or all of the last token
whose save succeeded. A call that hands out a token with another access token tries to save it, also
when this failed before, and a call without a token changes nothing. -/
theorem run_file_last_saved {o : Options} {listens : Bool} {c : Credential} {id : Identity}
    {h₀ h : Host} {calls : List Call} {s : Source} (hid : identity o h₀.tree = .ok id)
    (hload : TokenFile.load h₀.tree o.tokenPath = .ok (some c))
    (hrun : Run o.tokenPath (sourceFor o listens c h₀).1 (sourceFor o listens c h₀).2 calls s h)
    (htext : ∀ call ∈ calls, ∀ t, call.result = .ok t → t.IsText) :
    (∃ r, s = .renewing r ∧ held? o.tokenPath h = some r.saved) ∧
    (lastSaved? o.tokenPath c.scopes calls = none →
      h.tree.read o.tokenPath = h₀.tree.read o.tokenPath) ∧
    (∀ t, lastSaved? o.tokenPath c.scopes calls = some t →
      h.tree.read o.tokenPath = .ok (TokenFile.encode t c.scopes) ∧
      (∃ scopes, TokenFile.load h.tree o.tokenPath = .ok (some ⟨t.stored, scopes⟩) ∧
        scopes.getD [] = c.scopes.getD []) ∧
      (WholeMinutes calls → t.stored = t)) ∧
    (∀ t, (s.token h).1 = .ok t → Persists o.tokenPath c.scopes h t (s.token h).2.2) ∧
    (∀ t w more earlier, calls = more ++ ⟨w, .ok t⟩ :: earlier →
      held? o.tokenPath w ≠ some t.accessToken →
      (∃ e, (saveTo o.tokenPath ⟨t, c.scopes⟩ w).1 = .error e) →
      (∀ call ∈ more, ∀ t', Call.saved? o.tokenPath c.scopes call = some t' →
        t'.accessToken ≠ t.accessToken) →
      (s.token h).1 = .ok t → (saveTo o.tokenPath ⟨t, c.scopes⟩ h).1 = .ok () →
      (s.token h).2.2.tree.read o.tokenPath = .ok (TokenFile.encode t c.scopes)) ∧
    (∀ e, (s.token h).1 = .error e →
      (s.token h).2.1 = s ∧ (s.token h).2.2.tree = h.tree ∧
        Failure.isA e .authorization = true) := by
  obtain ⟨r₀, original, hsource, hread, hstart⟩ := sourceFor_synced listens hid hload
  have hscopes := TokenFile.valid_of_load hload
  rw [hsource] at hrun
  obtain ⟨r, rfl, hsynced⟩ := hrun.synced hstart hscopes htext
  have hpersists : ∀ t, ((Source.renewing r).token h).1 = .ok t →
      Persists o.tokenPath c.scopes h t ((Source.renewing r).token h).2.2 := by
    intro t ht
    have hcalled := token_called r h
    generalize (Source.renewing r).token h = out at ht hcalled
    obtain ⟨result, source, h'⟩ := out
    cases ht
    exact hsynced.persists hcalled
  refine ⟨⟨r, rfl, hsynced.held_eq⟩, ?_, ?_, hpersists, ?_, ?_⟩
  · intro hnone
    rw [hsynced.untouched hnone, hread]
  · intro t ht
    obtain ⟨hfile, hminutes⟩ := hsynced.written t ht
    obtain ⟨scopes, hloaded, hsame⟩ := hsynced.load_eq
    rw [fileToken, ht] at hloaded
    exact ⟨hfile, ⟨scopes, hloaded, hsame⟩, hminutes⟩
  · rintro t w more earlier rfl hother ⟨e, hfailed⟩ hmore ht hsave
    obtain ⟨s, hbefore, -⟩ := hrun.before rfl
    obtain ⟨r', -, hsynced'⟩ := hbefore.synced hstart hscopes fun call hcall =>
      htext call (List.mem_append_right _ (List.mem_cons_of_mem _ hcall))
    exact (hpersists t ht).written
      (hsynced.held_ne_of_unsaved hsynced' hother hfailed hmore) hsave
  · intro e he
    have hcalled := token_called r h
    generalize (Source.renewing r).token h = out at he hcalled
    cases hcalled with
    | refused htree =>
      cases he
      exact ⟨rfl, htree, rfl⟩
    | known => cases he
    | saved => cases he
    | unsaved => cases he

/-- A client whose token file is in a directory of its own. -/
def nestedOptions : Options := { sampleOptions with tokenPath := "d/token.json" }

/-- A token that has expired, and the credential it belongs to. -/
def lapsedToken : Token := ⟨"old", [], "r", ⟨100, 0, 0⟩, 0⟩
def lapsedCredential : Credential := ⟨lapsedToken, some ["drive"]⟩

/-- The credential in a file in a directory of a mode, at a token page that answers. -/
def nestedHost (mode : Nat) (page : Http.Reply) : Host where
  tree := ⟨[([utf8 "d"], .dir mode),
    ([utf8 "d", utf8 "token.json"],
      .file 0o600 (TokenFile.encode lapsedToken lapsedCredential.scopes))]⟩
  wire := .ofAnswers [.reply page] false
  now := ⟨4000, 0, 0⟩
  entropy := ⟨fun _ => "1", "s", "v", 8080⟩

/-- The token that the page grants. -/
def grantedToken : Token := ⟨"a", [], "r", ⟨7600, 0, 0⟩, 3600⟩

/-- A token that is granted while the directory cannot be written is saved by the next call, once
the directory can. -/
theorem nestedSource_saved_later :
    let locked := nestedHost 0o500 samplePage
    let first := (sourceFor nestedOptions true lapsedCredential locked).1.token locked
    first.1 = .ok grantedToken ∧
      first.2.2.tree.read nestedOptions.tokenPath =
        .ok (TokenFile.encode lapsedToken lapsedCredential.scopes) ∧
      (first.2.1.token (nestedHost 0o700 samplePage)).2.2.tree.read nestedOptions.tokenPath =
        .ok (TokenFile.encode grantedToken lapsedCredential.scopes) := by
  intro locked first
  have hgranted : first.1 = .ok grantedToken := by decide +kernel
  have hid : identity nestedOptions locked.tree =
      .ok ⟨"id", [], [], ["drive"], ⟨"http://idp/auth", "http://idp/token", 1⟩⟩ := by decide
  have hload : TokenFile.load locked.tree nestedOptions.tokenPath =
      .ok (some lapsedCredential) := by decide +kernel
  have hread : (nestedHost 0o700 samplePage).tree.read nestedOptions.tokenPath =
      first.2.2.tree.read nestedOptions.tokenPath := by decide +kernel
  have htext : ∀ call ∈ [Call.mk locked (.ok grantedToken)],
      ∀ t, call.result = .ok t → t.IsText := by
    rintro call (_ | ⟨_, ⟨⟩⟩) t ⟨⟩
    exact ⟨by decide, by decide, by decide, by decide⟩
  obtain ⟨-, -, -, -, hretry, -⟩ :=
    run_file_last_saved hid hload (.wait (Run.start.called hgranted) hread) htext
  refine ⟨hgranted, by decide +kernel, ?_⟩
  refine hretry grantedToken locked [] [] rfl ?_ ?_ ?_ ?_ ?_
  · decide +kernel
  · exact ⟨.unwritable (.temporary ⟨"open", "d/.token.json-1.tmp", .denied⟩), by decide +kernel⟩
  · rintro call ⟨⟩
  · decide +kernel
  · decide +kernel

end DocPull.Auth
