import DocPull.Config.Resolve
import DocPull.Proofs.Config.Valid
import DocPull.Proofs.Files.Tree

/-!
# When settings are in effect

Settings are checked twice: as the file gives them, and again once all layers had their say. They
are in effect exactly when both checks find nothing and there is a place for the token file. What
overrides can change is the identity of the client and the type of the document, so of all settings
that pass the second check only those two can fail the first one.
-/
open DocPull.Files DocPull.Files.Tree

namespace DocPull.Config

/-- The settings that the file of a path gives on top of the defaults, before any check of their
values. No file gives nothing; a document gives what it holds, if it has the right kinds of values
and no unknown keys. -/
inductive Gives (t : Tree) (path : Bytes) : Settings → Prop
  | nothing (h : path = [] ∨ t.isMissing path = true) : Gives t path defaults
  | document {content : Bytes} {d : Toml.Document} {c : Settings}
      (hread : t.read path = .ok content) (hparse : Toml.parse? content = some d)
      (happly : applyDocument d defaults = some c) (hknown : unknownKeys d = []) :
      Gives t path c

/-- The settings of all layers, given those of the file. -/
def merged (env : Environment) (cli : Overrides) (file : Settings) : Settings :=
  place env (override env cli file)

theorem reportKeys_eq_nil {keys : List Toml.Key} : reportKeys [] keys = [] ↔ keys = [] := by
  cases keys with
  | nil => simp [reportKeys]
  | cons key keys =>
    -- Nothing was reported before the first key, so it is.
    simp only [reportKeys, List.contains_nil, Bool.false_eq_true, if_false]
    split_ifs <;> simp

theorem readSettings_eq_ok {path content : Bytes} {c : Settings} :
    readSettings path content = .ok c ↔
      ∃ d, Toml.parse? content = some d ∧ applyDocument d defaults = some c ∧
        unknownKeys d = [] := by
  unfold readSettings
  cases Toml.parse? content with
  | none => simp
  | some d =>
    cases happly : applyDocument d defaults with
    | none => simp [happly]
    | some c' =>
      cases hreport : reportKeys [] (unknownKeys d) with
      | nil => simp [happly, reportKeys_eq_nil.mp hreport, reportKeys]
      | cons key keys =>
        have hunknown : unknownKeys d ≠ [] := by
          intro hnil
          rw [reportKeys_eq_nil.mpr hnil] at hreport
          cases hreport
        simp [happly, hreport, hunknown]

theorem load_eq_ok {t : Tree} {path : Bytes} {c : Settings} :
    load t path = .ok c ↔
      (∃ content, t.read path = .ok content ∧ readSettings path content = .ok c) ∧
        problems c = [] := by
  unfold load
  cases t.read path with
  | error e => simp
  | ok content =>
    simp only [Outcome.bind_eq_ok, Except.ok.injEq, exists_eq_left']
    constructor
    · rintro ⟨c', hread, hcheck⟩
      split at hcheck
      · rename_i hnone
        cases hcheck
        exact ⟨hread, hnone⟩
      · cases hcheck
    · rintro ⟨hread, hnone⟩
      refine ⟨c, hread, ?_⟩
      rw [hnone]
      rfl

/-- A file that can be read is not missing. -/
theorem found_of_read {t : Tree} {path content : Bytes} (h : t.read path = .ok content) :
    path ≠ [] ∧ t.isMissing path = false := by
  obtain ⟨l, mode, hlocate, hfile, -⟩ := file_of_read h
  constructor
  · rintro rfl
    simp [Tree.locate] at hlocate
  · simp [isMissing, lookup_eq_ok.mpr ⟨hlocate, hfile⟩]

/-- Loading gives what the file gives, once that has passed the checks. -/
theorem loadOrDefault_eq_ok {t : Tree} {path : Bytes} {c : Settings} :
    loadOrDefault t path = .ok c ↔ Gives t path c ∧ problems c = [] := by
  unfold loadOrDefault
  constructor
  · intro h
    split_ifs at h with hempty hmissing
    · cases h
      exact ⟨.nothing (.inl hempty), problems_defaults⟩
    · cases h
      exact ⟨.nothing (.inr hmissing), problems_defaults⟩
    · obtain ⟨⟨content, hread, hsettings⟩, hnone⟩ := load_eq_ok.mp h
      obtain ⟨d, hparse, happly, hknown⟩ := readSettings_eq_ok.mp hsettings
      exact ⟨.document hread hparse happly hknown, hnone⟩
  · rintro ⟨hgives, hnone⟩
    cases hgives with
    | nothing h =>
      split_ifs with hempty hmissing
      · rfl
      · rfl
      · exact absurd h (not_or.mpr ⟨hempty, hmissing⟩)
    | document hread hparse happly hknown =>
      obtain ⟨hpath, hfound⟩ := found_of_read hread
      rw [if_neg hpath, hfound, if_neg Bool.false_ne_true]
      exact load_eq_ok.mpr
        ⟨⟨_, hread, readSettings_eq_ok.mpr ⟨_, hparse, happly, hknown⟩⟩, hnone⟩

/-- What a file gives is one thing. -/
theorem Gives.unique {t : Tree} {path : Bytes} {c c' : Settings} (h : Gives t path c)
    (h' : Gives t path c') : c = c' := by
  have hread : ∀ content, t.read path = .ok content → ¬(path = [] ∨ t.isMissing path = true) := by
    intro content hread
    obtain ⟨hpath, hfound⟩ := found_of_read hread
    simp [hpath, hfound]
  cases h with
  | nothing h =>
    cases h' with
    | nothing _ => rfl
    | document hread' _ _ _ => exact absurd h (hread _ hread')
  | document hr hparse happly _ =>
    cases h' with
    | nothing h' => exact absurd h' (hread _ hr)
    | document hr' hparse' happly' _ =>
      obtain rfl := Except.ok.inj (hr.symm.trans hr')
      obtain rfl := Option.some.inj (hparse.symm.trans hparse')
      exact Option.some.inj (happly.symm.trans happly')

/-- Settings are in effect when those of the file and those of all layers pass the checks and the
token file has a place. -/
theorem resolve_eq_ok {t : Tree} {env : Environment} {cli : Overrides} {r : Resolved} :
    resolve t env cli = .ok r ↔
      ∃ file, Gives t (chosenPath env cli) file ∧ problems file = [] ∧
        problems (merged env cli file) = [] ∧ (merged env cli file).auth.tokenFile ≠ [] ∧
        r = .ofSettings (merged env cli file) (chosenPath env cli) := by
  unfold resolve
  simp only [Outcome.bind_eq_ok, loadOrDefault_eq_ok]
  refine exists_congr fun file => ?_
  rw [and_assoc]
  refine and_congr_right fun _ => and_congr_right fun _ => ?_
  rw [← merged]
  cases problems (merged env cli file) with
  | cons p ps => simp [throw, throwThe, MonadExceptOf.throw]
  | nil =>
    by_cases htoken : (merged env cli file).auth.tokenFile = []
    · simp [htoken, throw, throwThe, MonadExceptOf.throw]
    · simp [htoken, pure, Except.pure, eq_comm]

/-- Where all layers together pass the checks, the file passes them if the identity of the client
and the type of the document do: the rest is not overridden. -/
theorem problems_file_iff {env : Environment} {cli : Overrides} {file : Settings}
    (h : problems (merged env cli file) = []) :
    problems file = [] ↔
      (file.auth.clientSecret ≠ [] → file.auth.clientId ≠ []) ∧
        IsMimeType file.exporting.mimeType := by
  obtain ⟨hauth, hexport, hfetch, hlog, hnetwork⟩ := problems_eq_nil.mp h
  rw [problems_eq_nil]
  constructor
  · intro hvalid
    exact ⟨hvalid.auth.identified, hvalid.exporting.mimeType⟩
  · rintro ⟨hid, hmime⟩
    exact ⟨⟨hauth.scopes, hauth.notBlank, hid⟩, ⟨hmime, hexport.chunkSize⟩, hfetch, hlog, hnetwork⟩

/-- A file that does not pass the checks is refused with what is wrong in it. -/
theorem resolve_of_problems {t : Tree} {env : Environment} {cli : Overrides} {file : Settings}
    (hfile : Gives t (chosenPath env cli) file) (h : problems file ≠ []) :
    resolve t env cli = .error (.invalidFile (problems file)) := by
  cases hfile with
  | nothing _ => exact absurd problems_defaults h
  | @document content _ _ hread hparse happly hknown =>
    obtain ⟨hpath, hfound⟩ := found_of_read hread
    have hsettings : readSettings (chosenPath env cli) content = .ok file :=
      readSettings_eq_ok.mpr ⟨_, hparse, happly, hknown⟩
    have hload : loadOrDefault t (chosenPath env cli) = .error (.invalidFile (problems file)) := by
      rw [loadOrDefault, if_neg hpath, hfound, if_neg Bool.false_ne_true, load, hread]
      dsimp only
      rw [hsettings]
      cases hproblems : problems file with
      | nil => exact absurd hproblems h
      | cons p ps => simp [bind, Except.bind, hproblems, throw, throwThe, MonadExceptOf.throw]
    simp [resolve, hload, bind, Except.bind]

/-- Settings are accepted exactly when the file's own ones and those of all layers pass the checks
and the token file has a place. Where all layers together pass, the file's own ones can still fail
in two ways, and then they are refused for them: a secret without an id, and a type that is no MIME
type. -/
theorem resolve_accepts_iff {t : Tree} {env : Environment} {cli : Overrides} {file : Settings}
    (hfile : Gives t (chosenPath env cli) file) :
    ((∃ r, resolve t env cli = .ok r) ↔
      problems file = [] ∧ problems (merged env cli file) = [] ∧
        (merged env cli file).auth.tokenFile ≠ []) ∧
    (problems (merged env cli file) = [] →
      (problems file = [] ↔
        (file.auth.clientSecret ≠ [] → file.auth.clientId ≠ []) ∧
          IsMimeType file.exporting.mimeType)) ∧
    (problems file ≠ [] → resolve t env cli = .error (.invalidFile (problems file))) := by
  refine ⟨⟨?_, ?_⟩, problems_file_iff, resolve_of_problems hfile⟩
  · rintro ⟨r, hr⟩
    obtain ⟨file', hfile', hown, hall, htoken, -⟩ := resolve_eq_ok.mp hr
    obtain rfl := hfile.unique hfile'
    exact ⟨hown, hall, htoken⟩
  · rintro ⟨hown, hall, htoken⟩
    exact ⟨_, resolve_eq_ok.mpr ⟨file, hfile, hown, hall, htoken, rfl⟩⟩

/-- An environment that names the configuration file and the client. -/
def namingClient : Environment :=
  [("HOME", "home"), ("GRABDOC_CONFIG", "c.toml"), ("GRABDOC_CLIENT_ID", "id")]

/-- A tree with a configuration file. -/
def configured (content : Bytes) : Tree := ⟨[([utf8 "c.toml"], .file 0o644 content)]⟩

/-- The defaults with an identity of the client. -/
def identified (clientId clientSecret : Bytes) : Settings :=
  { defaults with
    auth := { defaults.auth with clientId := clientId, clientSecret := clientSecret } }

/-- What a document gives, once it has been read. -/
theorem gives_configured {content : Bytes} {c : Settings}
    (hread : (configured content).read "c.toml" = .ok content)
    (h : readSettings "c.toml" content = .ok c) : Gives (configured content) "c.toml" c := by
  obtain ⟨d, hparse, happly, hknown⟩ := readSettings_eq_ok.mp h
  exact .document hread hparse happly hknown

/-- A file that has the secret and the id is accepted. -/
theorem identified_accepted :
    Gives (configured "[auth]\nclient_id = \"own\"\nclient_secret = \"s\"\n") "c.toml"
        (identified "own" "s") ∧
      ∃ r, resolve (configured "[auth]\nclient_id = \"own\"\nclient_secret = \"s\"\n") namingClient
        {} = .ok r := by
  have hgives : Gives (configured "[auth]\nclient_id = \"own\"\nclient_secret = \"s\"\n") "c.toml"
      (identified "own" "s") := gives_configured (by decide +kernel) (by decide +kernel)
  have hpath : chosenPath namingClient {} = utf8 "c.toml" := by decide +kernel
  have hchosen : Gives (configured "[auth]\nclient_id = \"own\"\nclient_secret = \"s\"\n")
      (chosenPath namingClient {}) (identified "own" "s") := hpath ▸ hgives
  have haccepts := (resolve_accepts_iff hchosen).1
  exact ⟨hgives, haccepts.mpr ⟨by decide +kernel, by decide +kernel, by decide +kernel⟩⟩

/-- A file that has the secret and leaves the id to the environment is refused, although all layers
together pass the checks and the token file has a place. -/
theorem secret_without_own_id_refused :
    Gives (configured "[auth]\nclient_secret = \"s\"\n") "c.toml" (identified [] "s") ∧
      problems (merged namingClient {} (identified [] "s")) = [] ∧
      (merged namingClient {} (identified [] "s")).auth.clientId = utf8 "id" ∧
      (merged namingClient {} (identified [] "s")).auth.tokenFile ≠ [] ∧
      resolve (configured "[auth]\nclient_secret = \"s\"\n") namingClient {} =
        .error (.invalidFile [.secretWithoutId]) := by
  refine ⟨gives_configured (by decide +kernel) (by decide +kernel), ?_, ?_, ?_, ?_⟩
  · decide +kernel
  · decide
  · decide +kernel
  · decide +kernel

end DocPull.Config
