import DocPull.Auth.TokenFile
import DocPull.Proofs.Files.AtomicWrite
import DocPull.Proofs.Instant
import DocPull.Proofs.Json.Decode

/-!
# Saved credentials

A credential that is saved is loaded back: the same texts, the same lifetime, and the expiry on the
same wall clock. A save that fails changes no file.
-/
open DocPull.Files.Tree

namespace DocPull.Auth

/-- What the tokens of a run have in common, whether they were read from a file or granted. -/
structure Token.Sound (now : Instant) (t : Token) : Prop where
  lifetime : Numeral.Fits t.expiresIn
  nanos : t.expiry.nanos < 1000000000
  offset : t.expiry.offset % 60 = 0 ∨ t.expiry.offset = now.offset

/-- Whether there is anything to use in a token. -/
def Token.Holds (t : Token) : Prop := t.accessToken ≠ [] ∨ t.refreshToken ≠ []

/-- The token as a file gives it back: the expiry has lost the seconds of its offset. -/
def Token.stored (t : Token) : Token := { t with expiry := t.expiry.onMinutes }

/-- Whether all texts of a credential are UTF-8. -/
structure Credential.IsText (c : Credential) : Prop where
  accessToken : TextUnit.valid c.token.accessToken = true
  tokenType : TextUnit.valid c.token.tokenType = true
  refreshToken : TextUnit.valid c.token.refreshToken = true
  scopes : ∀ s ∈ c.scopes.getD [], TextUnit.valid s = true

/-- A clock of whole minutes loses nothing in a file. -/
theorem Token.Sound.stored_eq {now : Instant} {t : Token} (h : t.Sound now)
    (hnow : now.offset % 60 = 0) : t.stored = t := by
  have hwhole : t.expiry.offset % 60 = 0 := by
    rcases h.offset with hzero | hsame
    · exact hzero
    · rw [hsame, hnow]
  rw [Token.stored, Instant.onMinutes_eq_self hwhole]

namespace TokenFile

open Json

section Members

variable {α : Type} {fields : List (String × (α → Json → Option α))}

/-- A member that is left out reads as one that says nothing. -/
theorem toRecord_optional {name : String} {read : α → Json → Option α}
    (hread : toRecord.reader? fields (utf8 name) = some read) {a b : α} {s : Bytes}
    (hempty : s = [] → b = a) (hvalue : read a (.ofText s) = some b)
    (members : List (Bytes × Json)) :
    toRecord fields a (.object (optional name s ++ members)) =
      toRecord fields b (.object members) := by
  rw [optional]
  split_ifs with hs
  · rw [List.nil_append, hempty hs]
  · rw [List.singleton_append, toRecord_cons hread, hvalue, Option.bind_some]

theorem readable_optional {depth : Nat} {name : String}
    (hname : TextUnit.valid (utf8 name) = true) (s : Bytes) {members : List (Bytes × Json)}
    (h : ReadableMembers depth members) : ReadableMembers depth (optional name s ++ members) := by
  rw [optional]
  split_ifs
  · exact h
  · exact ⟨hname, readable_ofText depth s, h⟩

end Members

/-- The document of a token can be written and read back. -/
theorem readable_tokenJson (t : Token) : Readable 1 (tokenJson t) := by
  have hlifetime : ReadableMembers 2
      (if t.expiresIn = 0 then [] else [(utf8 "expires_in", .ofInt t.expiresIn)]) := by
    split_ifs
    · trivial
    · exact ⟨by decide, isNumber_signed t.expiresIn, trivial⟩
  simp only [tokenJson, List.append_assoc, List.singleton_append]
  refine ⟨by decide, by decide, readable_ofText 2 t.accessToken, ?_⟩
  refine readable_optional (by decide) t.tokenType ?_
  refine readable_optional (by decide) t.refreshToken ?_
  exact ⟨by decide, readable_ofText 2 t.expiry.toText, hlifetime⟩

/-- The document of a token gives the token back. -/
theorem readToken_tokenJson {now : Instant} {c : Credential} (hc : c.IsText)
    (hsound : c.token.Sound now) (hw : c.token.expiry.unwritable? = none) :
    readToken Token.blank (tokenJson c.token) = some c.token.stored := by
  obtain ⟨⟨access, type, refresh, expiry, lifetime⟩, scopes⟩ := c
  have hnodup : (tokenFields.map fun f => utf8 f.1).Nodup := by decide
  have hexpiry : readExpiry Instant.unset (.ofText expiry.toText) = some expiry.onMinutes := by
    rw [ofText, readExpiry, unquote_quote (TextUnit.valid_of_ascii (Instant.ascii_toText expiry)),
      Instant.parse?_toText hw hsound.nanos]
  have haccess : ∀ members, toRecord tokenFields Token.blank
      (.object ((utf8 "access_token", .ofText access) :: members)) =
      toRecord tokenFields ⟨access, [], [], Instant.unset, 0⟩ (.object members) := by
    intro members
    rw [toRecord_cons (reader?_of_mem hnodup (.head _)), toText_ofText hc.accessToken]
    rfl
  have htype : ∀ members, toRecord tokenFields ⟨access, [], [], Instant.unset, 0⟩
      (.object (optional "token_type" type ++ members)) =
      toRecord tokenFields ⟨access, type, [], Instant.unset, 0⟩ (.object members) := by
    refine toRecord_optional (reader?_of_mem hnodup (.tail _ (.head _))) ?_ ?_
    · rintro rfl
      rfl
    · rw [toText_ofText hc.tokenType, Option.map_some]
  have hrefresh : ∀ members, toRecord tokenFields ⟨access, type, [], Instant.unset, 0⟩
      (.object (optional "refresh_token" refresh ++ members)) =
      toRecord tokenFields ⟨access, type, refresh, Instant.unset, 0⟩ (.object members) := by
    refine toRecord_optional (reader?_of_mem hnodup (.tail _ (.tail _ (.head _)))) ?_ ?_
    · rintro rfl
      rfl
    · rw [toText_ofText hc.refreshToken, Option.map_some]
  have hwhen : ∀ members, toRecord tokenFields ⟨access, type, refresh, Instant.unset, 0⟩
      (.object ((utf8 "expiry", .ofText expiry.toText) :: members)) =
      toRecord tokenFields ⟨access, type, refresh, expiry.onMinutes, 0⟩ (.object members) := by
    intro members
    rw [toRecord_cons (reader?_of_mem hnodup (.tail _ (.tail _ (.tail _ (.head _))))), hexpiry]
    rfl
  simp only [readToken, tokenJson, List.append_assoc, List.cons_append, List.nil_append]
  rw [haccess, htype, hrefresh, hwhen]
  split_ifs with hzero
  · rw [toRecord_nil, hzero]
    rfl
  · rw [toRecord_cons (reader?_of_mem hnodup (.tail _ (.tail _ (.tail _ (.tail _ (.head _)))))),
      toInteger_ofInt hsound.lifetime]
    rfl

/-- The text of a credential is read as the document it was written for. -/
theorem parse?_encode (t : Token) (scopes : Option (List Bytes)) :
    parse? (encode t scopes) = some (.object ((utf8 "token", tokenJson t) ::
      if scopes.getD [] = [] then []
      else [(utf8 "scopes", .array ((scopes.getD []).map ofText))])) := by
  have hnames : TextUnit.valid (utf8 "token") = true ∧ TextUnit.valid (utf8 "scopes") = true := by
    decide
  have hscopes : ReadableMembers 1 (if scopes.getD [] = [] then []
      else [(utf8 "scopes", .array ((scopes.getD []).map ofText))]) := by
    split_ifs
    · trivial
    · exact ⟨hnames.2, ⟨by decide, readable_texts 2 _⟩, trivial⟩
  exact parse?_print ⟨by decide, hnames.1, readable_tokenJson t, hscopes⟩

/-- The text of a credential gives the credential back. -/
theorem decode_encode {now : Instant} {c : Credential} (hc : c.IsText) (hholds : c.token.Holds)
    (hsound : c.token.Sound now) (hw : c.token.expiry.unwritable? = none) (path : Bytes) :
    ∃ scopes, decode path (encode c.token c.scopes) = .ok ⟨c.token.stored, scopes⟩ ∧
      scopes.getD [] = c.scopes.getD [] := by
  have hnodup : (contentFields.map fun f => utf8 f.1).Nodup := by decide
  have htoken : ∀ members, toRecord contentFields ⟨none, none⟩
      (.object ((utf8 "token", tokenJson c.token) :: members)) =
      toRecord contentFields ⟨some c.token.stored, none⟩ (.object members) := by
    intro members
    have hread : toOptional Token.blank readToken none (tokenJson c.token) =
        some (some c.token.stored) := by
      change (readToken Token.blank (tokenJson c.token)).map some = _
      rw [readToken_tokenJson hc hsound hw, Option.map_some]
    rw [toRecord_cons (reader?_of_mem hnodup (.head _)), hread]
    rfl
  have hkept : ¬(c.token.stored.accessToken = [] ∧ c.token.stored.refreshToken = []) := by
    rintro ⟨haccess, hrefresh⟩
    rcases hholds with h | h
    · exact h haccess
    · exact h hrefresh
  rw [decode, parse?_encode, Option.bind_some, readContent, htoken]
  by_cases hscopes : c.scopes.getD [] = []
  · refine ⟨none, ?_, hscopes.symm⟩
    rw [if_pos hscopes, toRecord_nil]
    simp only [if_neg hkept, Option.map_none]
  · refine ⟨some (c.scopes.getD []), ?_, rfl⟩
    rw [if_neg hscopes, toRecord_cons (reader?_of_mem hnodup (.tail _ (.head _))),
      toTexts_texts hc.scopes]
    simp only [Option.map_some, Option.bind_some, toRecord_nil, if_neg hkept]

section Load

variable {now : Instant}

theorem sound_blank (now : Instant) : Token.blank.Sound now :=
  ⟨Numeral.fits_zero, by decide, .inl (by decide)⟩

theorem Sound.withExpiry {t : Token} (h : t.Sound now) {j : Json} {expiry : Instant}
    (hread : readExpiry t.expiry j = some expiry) :
    Token.Sound now { t with expiry := expiry } := by
  cases j with
  | null =>
    cases hread
    exact h
  | string l =>
    obtain ⟨hnanos, hoffset⟩ := Instant.parse?_fields hread
    exact ⟨h.lifetime, hnanos, .inl hoffset⟩
  | _ => cases hread

theorem Sound.withLifetime {t : Token} (h : t.Sound now) {j : Json} {n : Int}
    (hread : j.toInteger t.expiresIn = some n) : Token.Sound now { t with expiresIn := n } := by
  refine ⟨?_, h.nanos, h.offset⟩
  cases j with
  | null =>
    cases hread
    exact h.lifetime
  | number l =>
    rw [toInteger, Outcome.toOption_eq_some] at hread
    exact Numeral.integer_fits hread
  | _ => cases hread

/-- Every member of a document keeps a token sound. -/
theorem sound_of_member : ∀ f ∈ tokenFields, ∀ (t : Token) (j : Json) (u : Token),
    t.Sound now → f.2 t j = some u → u.Sound now := by
  intro f hf t j u ht hread
  fin_cases hf
  all_goals
    obtain ⟨v, hv, rfl⟩ := Option.map_eq_some_iff.mp hread
  · exact ⟨ht.lifetime, ht.nanos, ht.offset⟩
  · exact ⟨ht.lifetime, ht.nanos, ht.offset⟩
  · exact ⟨ht.lifetime, ht.nanos, ht.offset⟩
  · exact Sound.withExpiry ht hv
  · exact Sound.withLifetime ht hv

theorem sound_of_toOptional {old new : Option Token} {j : Json}
    (hold : ∀ t ∈ old, t.Sound now) (h : toOptional Token.blank readToken old j = some new) :
    ∀ t ∈ new, t.Sound now := by
  unfold toOptional at h
  split at h
  · cases h
    rintro t ⟨⟩
  · obtain ⟨u, hu, rfl⟩ := Option.map_eq_some_iff.mp h
    rintro t ⟨⟩
    refine toRecord_keeps sound_of_member ?_ hu
    cases old with
    | none => exact sound_blank now
    | some t => exact hold t rfl

/-- A document's token is sound, when it has one. -/
theorem sound_of_readContent {j : Json} {content : Content} (h : readContent j = some content) :
    ∀ t ∈ content.token, t.Sound now := by
  refine toRecord_keeps (P := fun c : Content => ∀ t ∈ c.token, t.Sound now) ?_ ?_ h
  · intro f hf c j c' hc hread
    fin_cases hf
    all_goals
      obtain ⟨v, hv, rfl⟩ := Option.map_eq_some_iff.mp hread
    · exact sound_of_toOptional hc hv
    · exact hc
  · intro t ht
    cases ht

theorem decode_sound {path s : Bytes} {c : Credential} (h : decode path s = .ok c) :
    c.token.Sound now ∧ c.token.Holds := by
  unfold decode at h
  split at h
  · cases h
  · cases h
  · rename_i t scopes hcontent
    obtain ⟨j, -, hj⟩ := Option.bind_eq_some_iff.mp hcontent
    split_ifs at h with hempty
    cases h
    exact ⟨sound_of_readContent hj t rfl, by simpa [Token.Holds, imp_iff_not_or] using hempty⟩

theorem load_of_read {t : Files.Tree} {path s : Bytes} (h : t.read path = .ok s) :
    load t path = (decode path s).map some := by
  rw [load, h]

/-- A credential is loaded from a text that was read. -/
theorem read_of_load {t : Files.Tree} {path : Bytes} {c : Credential}
    (h : load t path = .ok (some c)) : ∃ s, t.read path = .ok s ∧ decode path s = .ok c := by
  cases hread : t.read path with
  | error e =>
    rw [load, hread] at h
    dsimp only at h
    split_ifs at h
    cases h
  | ok s =>
    rw [load_of_read hread] at h
    obtain ⟨d, hdecode, hd⟩ := Outcome.map_eq_ok.mp h
    cases hd
    exact ⟨s, rfl, hdecode⟩

/-- A loaded credential is sound and there is something to use in it. -/
theorem load_sound {t : Files.Tree} {path : Bytes} {c : Credential}
    (h : load t path = .ok (some c)) : c.token.Sound now ∧ c.token.Holds := by
  obtain ⟨s, -, hdecode⟩ := read_of_load h
  exact decode_sound hdecode

theorem valid_of_decode {path s : Bytes} {c : Credential} (h : decode path s = .ok c) :
    ∀ scope ∈ c.scopes.getD [], TextUnit.valid scope = true := by
  have hcontent : ∀ {j content}, readContent j = some content →
      ∀ slots ∈ content.scopes, ∀ scope ∈ slots.items ++ slots.spare,
        TextUnit.valid scope = true := by
    intro j content hread
    refine toRecord_keeps (P := fun c : Content => ∀ slots ∈ c.scopes,
      ∀ scope ∈ slots.items ++ slots.spare, TextUnit.valid scope = true) ?_ ?_ hread
    · intro f hf c j c' hc hread
      fin_cases hf
      all_goals
        obtain ⟨v, hv, rfl⟩ := Option.map_eq_some_iff.mp hread
      · exact hc
      · exact toTexts_valid hc hv
    · intro slots hslots
      cases hslots
  unfold decode at h
  split at h
  · cases h
  · cases h
  · rename_i t scopes hbound
    obtain ⟨j, -, hj⟩ := Option.bind_eq_some_iff.mp hbound
    split_ifs at h
    cases h
    cases scopes with
    | none => simp
    | some slots =>
      intro scope hscope
      exact hcontent hj slots rfl scope (List.mem_append_left _ hscope)

/-- The scopes in a file are UTF-8. -/
theorem valid_of_load {t : Files.Tree} {path : Bytes} {c : Credential}
    (h : load t path = .ok (some c)) :
    ∀ scope ∈ c.scopes.getD [], TextUnit.valid scope = true := by
  obtain ⟨s, -, hdecode⟩ := read_of_load h
  exact valid_of_decode hdecode

end Load

section Save

variable {t : Files.Tree} {path : Bytes} {token : Token} {scopes : Option (List Bytes)}
  {digits : Nat → Bytes}

theorem save_of_unwritable {why : Instant.Unwritable} (hw : token.expiry.unwritable? = some why) :
    save t path (some token) scopes digits = ⟨[], .error (.unwritableExpiry why)⟩ := by
  unfold save
  dsimp only
  rw [hw]

theorem save_of_writable (hw : token.expiry.unwritable? = none) :
    save t path (some token) scopes digits =
      ⟨(Files.writeFile t path (encode token scopes) fileMode dirMode digits).trees,
        (Files.writeFile t path (encode token scopes) fileMode dirMode digits).result.mapError
          .unwritable⟩ := by
  unfold save
  dsimp only
  rw [hw]

/-- A finished save leaves the text of the credential in a file for its owner only. -/
theorem save_ok (h : (save t path (some token) scopes digits).result = .ok ()) :
    token.expiry.unwritable? = none ∧
      ∃ target, ((save t path (some token) scopes digits).final t).locate path = .ok target ∧
        Replaces t ((save t path (some token) scopes digits).final t) target
          (.file 0o600 (encode token scopes)) := by
  cases hw : token.expiry.unwritable? with
  | some why =>
    rw [save_of_unwritable hw] at h
    cases h
  | none =>
    rw [save_of_writable hw] at h ⊢
    exact ⟨rfl, Files.writeFile_ok (Outcome.mapError_eq_ok.mp h)⟩

/-- A failed save leaves directories behind at most. -/
theorem save_makes {e : Error} (h : (save t path (some token) scopes digits).result = .error e) :
    Makes (Path.dir path) dirMode t
      ((save t path (some token) scopes digits).final t) := by
  cases hw : token.expiry.unwritable? with
  | some why =>
    rw [save_of_unwritable hw]
    exact .refl _ _ t
  | none =>
    rw [save_of_writable hw] at h ⊢
    obtain ⟨e', he', -⟩ := Outcome.mapError_eq_error.mp h
    exact Files.writeFile_makes he'

/-- A failed save changes no file. -/
theorem save_error {e : Error} (h : (save t path (some token) scopes digits).result = .error e) :
    AddsDirs t ((save t path (some token) scopes digits).final t) :=
  (save_makes h).addsDirs

theorem read_of_save (h : (save t path (some token) scopes digits).result = .ok ()) :
    ((save t path (some token) scopes digits).final t).read path = .ok (encode token scopes) := by
  obtain ⟨-, target, hlocate, hreplaces⟩ := save_ok h
  exact read_of_file hlocate hreplaces.here rfl

/-- What was saved is loaded back. -/
theorem load_of_save {now : Instant} {c : Credential} (hc : c.IsText) (hholds : c.token.Holds)
    (hsound : c.token.Sound now)
    (h : (save t path (some c.token) c.scopes digits).result = .ok ()) :
    ∃ scopes, load ((save t path (some c.token) c.scopes digits).final t) path =
        .ok (some ⟨c.token.stored, scopes⟩) ∧ scopes.getD [] = c.scopes.getD [] := by
  obtain ⟨scopes, hdecode, hscopes⟩ := decode_encode hc hholds hsound (save_ok h).1 path
  refine ⟨scopes, ?_, hscopes⟩
  rw [load_of_read (read_of_save h), hdecode]
  rfl

end Save

end TokenFile

end DocPull.Auth
