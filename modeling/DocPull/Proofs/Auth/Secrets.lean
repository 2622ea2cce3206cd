import DocPull.Auth.Manager
import DocPull.Proofs.Auth.TokenFile
import DocPull.Proofs.Files.Alike
import DocPull.Proofs.Json.Variation

/-!
# Files that differ in their secrets

A token file holds an access token and a refresh token, and a client secret file the secret of the
client. Two trees whose files differ in such values only are read in the same way: what is read
fails in the same way, or it differs in these values only. Whether a token is empty is no secret.
-/
open DocPull.Files DocPull.Files.Tree DocPull.Json

namespace DocPull.Auth

/-- Whether both values are texts. -/
def BothTexts (j j' : Json) : Prop := ∃ l l', j = .string l ∧ j' = .string l'

/-- Whether both values are texts, and neither is empty. -/
def BothSet (j j' : Json) : Prop :=
  ∃ l l', j = .string l ∧ j' = .string l' ∧ unquote l ≠ [] ∧ unquote l' ≠ []

/-- The secrets of a token. -/
def tokenSecrets : Variations := [("access_token", BothSet), ("refresh_token", BothSet)]

/-- The secret of a client. -/
def clientSecrets : Variations := [("client_secret", BothTexts)]

/-- Where a file may hold secrets: in the token of a token file, and in the entries of a client
secret file. -/
def fileSecrets : Variations :=
  [("token", Varied tokenSecrets), ("web", Varied clientSecrets),
    ("installed", Varied clientSecrets)]

/-- Two texts that are equal, or documents which differ in their secrets at most. -/
def SameButSecrets (s s' : Bytes) : Prop :=
  s' = s ∨ ∃ j j', parse? s = some j ∧ parse? s' = some j' ∧ Varied fileSecrets j j'

theorem SameButSecrets.parsed {s s' : Bytes} (h : SameButSecrets s s') :
    Option.Rel (Varied fileSecrets) (parse? s) (parse? s') := by
  obtain rfl | ⟨j, j', hj, hj', hvaried⟩ := h
  · exact Outcome.rel_refl .same _
  · rw [hj, hj']
    exact .some hvaried

/-- Two tokens that differ in their texts at most, and not in which of them is empty. -/
structure Token.SameButSecrets (t t' : Token) : Prop where
  accessToken : t'.accessToken = [] ↔ t.accessToken = []
  tokenType : t'.tokenType = t.tokenType
  refreshToken : t'.refreshToken = [] ↔ t.refreshToken = []
  expiry : t'.expiry = t.expiry
  expiresIn : t'.expiresIn = t.expiresIn

theorem Token.SameButSecrets.refl (t : Token) : t.SameButSecrets t := ⟨.rfl, rfl, .rfl, rfl, rfl⟩

/-- Two credentials whose tokens differ in their secrets at most. -/
structure Credential.SameButSecrets (c c' : Credential) : Prop where
  token : c.token.SameButSecrets c'.token
  scopes : c'.scopes = c.scopes

theorem Credential.SameButSecrets.refl (c : Credential) : c.SameButSecrets c := ⟨.refl _, rfl⟩

/-- Two clients that differ in their secret at most. -/
def Identity.SameButSecret (id id' : Identity) : Prop :=
  ∃ secret, id' = { id with clientSecret := secret }

/-- Two entries that differ in their secret at most. -/
def ClientEntry.SameButSecret (c c' : ClientEntry) : Prop :=
  ∃ secret, c' = { c with clientSecret := secret }

section Values

variable {j j' : Json} {old old' : Bytes}

/-- A token that is read from either value is empty for both or for none. -/
theorem toText_bothSet (hold : old' = [] ↔ old = []) (hj : j' = j ∨ BothSet j j') :
    Option.Rel (fun s s' => s' = [] ↔ s = []) (j.toText old) (j'.toText old') := by
  rcases hj with rfl | ⟨l, l', rfl, rfl, hl, hl'⟩
  · cases j' with
    | null => exact .some hold
    | string l => exact .some .rfl
    | _ => exact .none
  · exact .some ⟨fun h => absurd h hl', fun h => absurd h hl⟩

theorem toText_bothTexts (hj : j' = j ∨ BothTexts j j') :
    Option.Rel (fun _ _ => True) (j.toText old) (j'.toText old') := by
  rcases hj with rfl | ⟨l, l', rfl, rfl⟩
  · cases j' with
    | null => exact .some trivial
    | string l => exact .some trivial
    | _ => exact .none
  · exact .some trivial

end Values

namespace TokenFile

/-- Tokens stay related while they are read. -/
theorem readToken_varied {t t' : Token} {j j' : Json} (ht : t.SameButSecrets t')
    (hj : Varied tokenSecrets j j') :
    Option.Rel Token.SameButSecrets (readToken t j) (readToken t' j') := by
  refine toRecord_varied ?_ ht hj
  simp only [tokenFields, List.forall_mem_cons, List.not_mem_nil, false_imp_iff, implies_true,
    and_true]
  refine ⟨?_, ?_, ?_, ?_, ?_⟩
  · intro a a' j j' ha hj
    refine Outcome.rel_map (toText_bothSet ha.accessToken (hj.eq_or rfl)) fun s s' hs => ?_
    exact { ha with accessToken := hs }
  · intro a a' j j' ha hj
    obtain rfl := hj.eq rfl
    rw [ha.tokenType]
    exact Outcome.rel_map_self _ fun _ => { ha with tokenType := rfl }
  · intro a a' j j' ha hj
    refine Outcome.rel_map (toText_bothSet ha.refreshToken (hj.eq_or rfl)) fun s s' hs => ?_
    exact { ha with refreshToken := hs }
  · intro a a' j j' ha hj
    obtain rfl := hj.eq rfl
    rw [ha.expiry]
    exact Outcome.rel_map_self _ fun _ => { ha with expiry := rfl }
  · intro a a' j j' ha hj
    obtain rfl := hj.eq rfl
    rw [ha.expiresIn]
    exact Outcome.rel_map_self _ fun _ => { ha with expiresIn := rfl }

/-- Two contents that differ in their secrets at most. -/
structure Content.SameButSecrets (c c' : Content) : Prop where
  token : Option.Rel Token.SameButSecrets c.token c'.token
  scopes : c'.scopes = c.scopes

theorem readContent_varied {j j' : Json} (hj : Varied fileSecrets j j') :
    Option.Rel Content.SameButSecrets (readContent j) (readContent j') := by
  refine toRecord_varied ?_ ⟨.none, rfl⟩ hj
  simp only [contentFields, List.forall_mem_cons, List.not_mem_nil, false_imp_iff, implies_true,
    and_true]
  refine ⟨?_, ?_⟩
  · intro c c' j j' hc hj
    have hvaried : Varied tokenSecrets j j' := hj.varied rfl
    refine Outcome.rel_map (toOptional_varied (fun _ _ _ _ => readToken_varied) (.refl _) hc.token
      hvaried) fun t t' ht => ?_
    exact { hc with token := ht }
  · intro c c' j j' hc hj
    obtain rfl := hj.eq rfl
    rw [hc.scopes]
    exact Outcome.rel_map_self _ fun _ => { hc with scopes := rfl }

/-- Texts that differ in their secrets fail in the same way to be credentials, or hold credentials
that differ in their secrets. -/
theorem decode_same (path : Bytes) {s s' : Bytes} (h : SameButSecrets s s') :
    Outcome.Same Credential.SameButSecrets (decode path s) (decode path s') := by
  have hcontent := Outcome.rel_bind h.parsed fun _ _ => readContent_varied
  unfold decode
  generalize (parse? s).bind readContent = c, (parse? s').bind readContent = c' at hcontent
  cases hcontent with
  | none => exact .error _
  | @some c c' hc =>
    obtain ⟨token, scopes⟩ := c
    obtain ⟨token', scopes'⟩ := c'
    obtain ⟨htoken, hscopes⟩ := hc
    dsimp only at htoken hscopes
    subst hscopes
    cases htoken with
    | none => exact .error _
    | some ht =>
      simp only [ht.accessToken, ht.refreshToken]
      split_ifs
      · exact .error _
      · exact .ok ⟨ht, rfl⟩

/-- A member for a secret may hold either text. -/
theorem allow_ofText {name : String} {s s' : Bytes} (hs : s' = [] ↔ s = [])
    (hname : tokenSecrets.ofName? name = some (name, BothSet)) :
    tokenSecrets.Allow name (.ofText s) (.ofText s') := by
  by_cases hempty : s = []
  · rw [hempty, hs.mpr hempty]
    exact .inl rfl
  · exact .inr ⟨_, hname, _, _, rfl, rfl, unquote_quote_ne_nil hempty,
      unquote_quote_ne_nil (mt hs.mp hempty)⟩

/-- The documents of tokens that differ in their secrets differ in nothing else. -/
theorem tokenJson_varied {t t' : Token} (ht : t.SameButSecrets t') :
    Varied tokenSecrets (tokenJson t) (tokenJson t') := by
  obtain ⟨haccess, htype, hrefresh, hexpiry, hlifetime⟩ := ht
  have hoptional : List.Forall₂ (fun m m' => m'.1 = m.1 ∧ tokenSecrets.Allow m.1 m.2 m'.2)
      (optional "refresh_token" t.refreshToken) (optional "refresh_token" t'.refreshToken) := by
    simp only [optional, hrefresh]
    split_ifs
    · exact .nil
    · exact .cons ⟨rfl, allow_ofText hrefresh rfl⟩ .nil
  unfold tokenJson
  rw [htype, hexpiry, hlifetime]
  refine .members (List.rel_append (List.rel_append (List.rel_append (List.rel_append ?_
    (forall₂_allow_refl _ _)) hoptional) (forall₂_allow_refl _ _)) (forall₂_allow_refl _ _))
  exact .cons ⟨rfl, allow_ofText haccess rfl⟩ .nil

/-- The texts of credentials that differ in their secrets differ in nothing else. -/
theorem encode_same {c c' : Credential} (hc : c.SameButSecrets c') :
    SameButSecrets (encode c.token c.scopes) (encode c'.token c'.scopes) := by
  rw [hc.scopes]
  refine .inr ⟨_, _, parse?_encode _ _, parse?_encode _ _, ?_⟩
  refine .members (.cons ⟨rfl, .inr ⟨_, rfl, ?_⟩⟩ (forall₂_allow_refl _ _))
  exact tokenJson_varied hc.token

end TokenFile

/-- Entries stay related while they are read. -/
theorem readEntry_varied {c c' : ClientEntry} {j j' : Json} (hc : c.SameButSecret c')
    (hj : Varied clientSecrets j j') :
    Option.Rel ClientEntry.SameButSecret (readEntry c j) (readEntry c' j') := by
  refine toRecord_varied ?_ hc hj
  simp only [List.forall_mem_cons, List.not_mem_nil, false_imp_iff, implies_true, and_true]
  refine ⟨?_, ?_, ?_, ?_, ?_⟩
  · rintro a _ j j' ⟨secret, rfl⟩ hj
    obtain rfl := hj.eq rfl
    exact Outcome.rel_map_self _ fun _ => ⟨secret, rfl⟩
  · rintro a _ j j' ⟨secret, rfl⟩ hj
    exact Outcome.rel_map (toText_bothTexts (hj.eq_or rfl)) fun _ s _ => ⟨s, rfl⟩
  · rintro a _ j j' ⟨secret, rfl⟩ hj
    obtain rfl := hj.eq rfl
    exact Outcome.rel_map_self _ fun _ => ⟨secret, rfl⟩
  · rintro a _ j j' ⟨secret, rfl⟩ hj
    obtain rfl := hj.eq rfl
    exact Outcome.rel_map_self _ fun _ => ⟨secret, rfl⟩
  · rintro a _ j j' ⟨secret, rfl⟩ hj
    obtain rfl := hj.eq rfl
    exact Outcome.rel_map_self _ fun _ => ⟨secret, rfl⟩

theorem readEntries_varied {j j' : Json} (hj : Varied fileSecrets j j') :
    Option.Rel (fun p p' => Option.Rel ClientEntry.SameButSecret p.1 p'.1 ∧
      Option.Rel ClientEntry.SameButSecret p.2 p'.2) (readEntries j) (readEntries j') := by
  refine toRecord_varied ?_ ⟨.none, .none⟩ hj
  simp only [List.forall_mem_cons, List.not_mem_nil, false_imp_iff, implies_true, and_true]
  refine ⟨?_, ?_⟩
  · intro p p' j j' hp hj
    have hvaried : Varied clientSecrets j j' := hj.varied rfl
    refine Outcome.rel_map (toOptional_varied (fun _ _ _ _ => readEntry_varied) ⟨[], rfl⟩ hp.1
      hvaried) fun c c' hc => ?_
    exact ⟨hc, hp.2⟩
  · intro p p' j j' hp hj
    have hvaried : Varied clientSecrets j j' := hj.varied rfl
    refine Outcome.rel_map (toOptional_varied (fun _ _ _ _ => readEntry_varied) ⟨[], rfl⟩ hp.2
      hvaried) fun c c' hc => ?_
    exact ⟨hp.1, hc⟩

/-- Texts that differ in their secrets fail in the same way to name a client, or name clients that
differ in their secret. -/
theorem readIdentity_same (path : Bytes) (scopes : List Bytes) {s s' : Bytes}
    (h : SameButSecrets s s') :
    Outcome.Same Identity.SameButSecret (readIdentity path s scopes)
      (readIdentity path s' scopes) := by
  have hentries := Outcome.rel_bind h.parsed fun _ _ => readEntries_varied
  unfold readIdentity
  generalize (parse? s).bind readEntries = p, (parse? s').bind readEntries = p' at hentries
  cases hentries with
  | none => exact .error _
  | @some p p' hp =>
    have hentry : Option.Rel ClientEntry.SameButSecret (p.1.or p.2) (p'.1.or p'.2) := by
      obtain ⟨hweb, hinstalled⟩ := hp
      generalize p.1 = web, p'.1 = web' at hweb
      cases hweb with
      | some hweb => exact .some hweb
      | none => exact hinstalled
    dsimp only
    generalize p.1.or p.2 = c, p'.1.or p'.2 = c' at hentry
    cases hentry with
    | none => exact .error _
    | @some c c' hc =>
      obtain ⟨secret, rfl⟩ := hc
      dsimp only
      split
      · exact .ok ⟨secret, rfl⟩
      · exact .error _

end DocPull.Auth

namespace DocPull.Files.Tree

/-- Two trees that differ in the secrets of their files at most. -/
def SameButSecrets (t u : Tree) : Prop :=
  ∀ l, u.get? l = t.get? l ∨
    ∃ m c c', t.get? l = some (.file m c) ∧ u.get? l = some (.file m c') ∧
      Auth.SameButSecrets c c'

namespace SameButSecrets

variable {t u : Tree}

theorem alike (h : t.SameButSecrets u) : t.Alike u := by
  intro l
  rcases h l with hl | ⟨m, c, c', ht, hu, -⟩
  · exact .inl hl
  · exact .inr ⟨m, c, m, c', ht, hu⟩

theorem refl (t : Tree) : t.SameButSecrets t := fun _ => .inl rfl

/-- Trees go on to differ in secrets only when files that do are put into them. -/
theorem put (h : t.SameButSecrets u) (l : Location) (mode : Nat) {c c' : Bytes}
    (hcontent : Auth.SameButSecrets c c') :
    (t.put l (.file mode c)).SameButSecrets (u.put l (.file mode c')) := by
  intro k
  by_cases hk : k = l
  · subst hk
    cases ha : isAnchor k with
    | true => exact .inl ((get?_anchor _ ha).trans (get?_anchor _ ha).symm)
    | false =>
      exact .inr ⟨mode, c, c', get?_put_self t _ ha, get?_put_self u _ ha, hcontent⟩
  · rw [get?_put_of_ne t _ hk, get?_put_of_ne u _ hk]
    exact h k

/-- A name is read in the same way in both trees, up to the secrets of its file. -/
theorem read_same (h : t.SameButSecrets u) (path : Bytes) :
    Outcome.Same Auth.SameButSecrets (t.read path) (u.read path) := by
  have hlocate := h.alike.locate_eq path
  cases hl : t.locate path with
  | error f =>
    rw [hl] at hlocate
    refine .of_eq (fun _ => .inl rfl) ?_
    simp only [read, lookup, hlocate, hl, bind, Except.bind]
  | ok l =>
    rw [hl] at hlocate
    rcases h l with he | ⟨m, c, c', ht, hu, hcontent⟩
    · refine .of_eq (fun _ => .inl rfl) ?_
      simp only [read, lookup, hlocate, hl, he, bind, Except.bind]
    · rw [read, read, lookup_eq_ok.mpr ⟨hl, ht⟩, lookup_eq_ok.mpr ⟨hlocate, hu⟩]
      dsimp only
      split_ifs
      · exact .ok hcontent
      · exact .error _

end SameButSecrets

end DocPull.Files.Tree

namespace DocPull.Auth

section Trees

variable {t u : Tree}

/-- Loading gives the same in both trees, up to the secrets of the credential. -/
theorem TokenFile.load_same (h : t.SameButSecrets u) (path : Bytes) :
    Outcome.Same (Option.Rel Credential.SameButSecrets) (load t path) (load u path) := by
  have hread := h.read_same path
  unfold load
  generalize t.read path = s, u.read path = s' at hread
  cases hread with
  | error e =>
    dsimp only
    split_ifs
    · exact .ok .none
    · exact .error _
  | ok hs => exact (decode_same path hs).map fun _ _ => .some

/-- The client is the same in both trees, up to its secret. -/
theorem identity_same (h : t.SameButSecrets u) (o : Options) (secret : Bytes) :
    Outcome.Same Identity.SameButSecret (identity o t)
      (identity { o with clientSecret := secret } u) := by
  unfold identity
  dsimp only
  split_ifs
  · exact .ok ⟨secret, rfl⟩
  · exact .error _
  · have hread := h.read_same o.clientSecretPath
    generalize t.read o.clientSecretPath = s, u.read o.clientSecretPath = s' at hread
    cases hread with
    | error e => exact .error _
    | ok hs =>
      refine ((readIdentity_same o.clientSecretPath o.scopes hs).mapError Error.identity).map ?_
      rintro id _ ⟨secret', rfl⟩
      exact ⟨secret', rfl⟩

end Trees

end DocPull.Auth
