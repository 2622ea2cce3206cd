import DocPull.Config.Validate
import DocPull.Proofs.Outcome

/-!
# What passes the checks

The checks report all problems of all sections. Settings without a problem are those that meet one
condition for each thing that is checked; the defaults are among them.
-/
namespace DocPull.Config

/-- Whether a text is a URL that is fetched over HTTP. -/
def IsHttpUrl (s : Bytes) : Prop :=
  ∃ u, Url.parse s = .ok u ∧ (u.scheme = utf8 "http" ∨ u.scheme = utf8 "https")

/-- Whether a text can be a MIME type; an empty one leaves the type open. -/
def IsMimeType (s : Bytes) : Prop := s = [] ∨ 3 ≤ s.length ∧ byte '/' ∈ s

/-- What the settings for signing in have to meet. -/
structure AuthSettings.Valid (a : AuthSettings) : Prop where
  scopes : a.scopes ≠ []
  notBlank : ∀ s ∈ a.scopes, Blank.trim s ≠ []
  identified : a.clientSecret ≠ [] → a.clientId ≠ []

/-- What the settings for exporting have to meet. -/
structure ExportSettings.Valid (e : ExportSettings) : Prop where
  mimeType : IsMimeType e.mimeType
  chunkSize : ∃ n, Size.parse e.chunkSize = .ok n ∧ minChunk ≤ n ∧ n ≤ maxChunk

/-- What the settings for requests have to meet. -/
structure NetworkSettings.Valid (n : NetworkSettings) : Prop where
  timeout : ∃ d, Duration.parse n.timeout = .ok d ∧ minTimeout ≤ d ∧ d ≤ maxTimeout
  driveEndpoint : n.driveEndpoint ≠ [] → IsHttpUrl n.driveEndpoint

/-- What all settings have to meet. -/
structure Settings.Valid (c : Settings) : Prop where
  auth : c.auth.Valid
  exporting : c.exporting.Valid
  fetchUrl : c.fetch.url ≠ [] → IsHttpUrl c.fetch.url
  logLevel : ∃ name ∈ logLevels, utf8 name = c.logging.logLevel
  network : c.network.Valid

/-- A URL that may be left out has no problem when it is, or when it is fetched over HTTP. -/
theorem urlProblem_eq_nil (problem : UrlProblem → Problem) (s : Bytes) :
    (if s = [] then [] else ((urlProblem? s).map problem).toList) = [] ↔
      (s ≠ [] → IsHttpUrl s) := by
  have hnone : urlProblem? s = none ↔ IsHttpUrl s := by
    unfold urlProblem? IsHttpUrl
    cases Url.parse s with
    | error e => simp
    | ok u => simp [or_iff_not_imp_left]
  by_cases hempty : s = []
  · simp [hempty]
  · simp [hempty, hnone]

theorem authProblems_eq_nil {a : AuthSettings} : authProblems a = [] ↔ a.Valid := by
  have hiff : authProblems a = [] ↔ a.scopes ≠ [] ∧ (∀ s ∈ a.scopes, Blank.trim s ≠ []) ∧
      (a.clientSecret ≠ [] → a.clientId ≠ []) := by
    simp [authProblems]
  rw [hiff]
  constructor
  · rintro ⟨hscopes, hblank, hid⟩
    exact ⟨hscopes, hblank, hid⟩
  · rintro ⟨hscopes, hblank, hid⟩
    exact ⟨hscopes, hblank, hid⟩

/-- What the check of a MIME type finds is that the text cannot be one. -/
theorem not_isMimeType {s : Bytes} :
    ¬IsMimeType s ↔ s ≠ [] ∧ (s.length < 3 ∨ (!s.contains (byte '/')) = true) := by
  simp only [IsMimeType, not_or, not_and_or, not_le, Bool.not_eq_true', ← Bool.not_eq_true,
    List.contains_iff_mem, ne_eq]

theorem exportProblems_eq_nil {e : ExportSettings} : exportProblems e = [] ↔ e.Valid := by
  unfold exportProblems
  constructor
  · intro h
    obtain ⟨hnone, hchunk⟩ := List.append_eq_nil_iff.mp h
    refine ⟨not_not.mp fun hbad => ?_, ?_⟩
    · rw [if_pos (not_isMimeType.mp hbad)] at hnone
      cases hnone
    · cases hparse : Size.parse e.chunkSize with
      | error err => simp [hparse] at hchunk
      | ok n =>
        simp only [hparse, ite_eq_right_iff, List.cons_ne_nil, imp_false, not_or, not_lt] at hchunk
        exact ⟨n, rfl, hchunk⟩
  · rintro ⟨htype, n, hparse, hlow, hhigh⟩
    simp only [if_neg (not_isMimeType.not.mp (not_not.mpr htype)), hparse, List.nil_append]
    rw [if_neg (by omega)]

theorem fetchProblems_eq_nil {f : FetchSettings} :
    fetchProblems f = [] ↔ (f.url ≠ [] → IsHttpUrl f.url) :=
  urlProblem_eq_nil .fetchUrl f.url

theorem loggingProblems_eq_nil {l : LoggingSettings} :
    loggingProblems l = [] ↔ ∃ name ∈ logLevels, utf8 name = l.logLevel := by
  simp [loggingProblems]

theorem networkProblems_eq_nil {n : NetworkSettings} : networkProblems n = [] ↔ n.Valid := by
  unfold networkProblems
  constructor
  · intro h
    cases hparse : Duration.parse n.timeout with
    | error e => simp [hparse] at h
    | ok d =>
      simp only [hparse] at h
      by_cases hrange : d < minTimeout ∨ maxTimeout < d
      · simp [hrange] at h
      · rw [if_neg hrange, urlProblem_eq_nil] at h
        exact ⟨⟨d, hparse, by omega, by omega⟩, h⟩
  · rintro ⟨⟨d, hparse, hlow, hhigh⟩, hurl⟩
    simp only [hparse]
    rw [if_neg (by omega), urlProblem_eq_nil]
    exact hurl

/-- Settings pass the checks when they meet every condition. -/
theorem problems_eq_nil {c : Settings} : problems c = [] ↔ c.Valid := by
  simp only [problems, List.append_eq_nil_iff, authProblems_eq_nil, exportProblems_eq_nil,
    fetchProblems_eq_nil, loggingProblems_eq_nil, networkProblems_eq_nil]
  constructor
  · rintro ⟨⟨⟨⟨hauth, hexport⟩, hfetch⟩, hlog⟩, hnetwork⟩
    exact ⟨hauth, hexport, hfetch, hlog, hnetwork⟩
  · rintro ⟨hauth, hexport, hfetch, hlog, hnetwork⟩
    exact ⟨⟨⟨⟨hauth, hexport⟩, hfetch⟩, hlog⟩, hnetwork⟩

/-- The defaults pass the checks. -/
theorem problems_defaults : problems defaults = [] := by decide +kernel

end DocPull.Config
