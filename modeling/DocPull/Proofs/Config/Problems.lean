import DocPull.Proofs.Config.Layers
import DocPull.Proofs.Text.Line

/-!
# All problems at once

Each problem is about one setting, names it first and takes one line of the message. Nearly always
it depends on this setting alone, so that it is reported whatever else is wrong. Two checks look at
a second setting: a secret is refused only without an id, and the endpoint is looked at only when
the timeout has no problem.
-/
open DocPull.Toml

namespace DocPull

theorem Numeral.Fault.oneLine_message {kind : String} (hkind : OneLine (utf8 kind))
    (numeral : Bytes) (f : Fault) : OneLine (f.message kind numeral) := by
  cases f <;> simp +decide [message, reason, Quoted.oneLine_quote, hkind]

theorem Size.Error.oneLine_message (e : Error) : OneLine e.message := by
  have hinteger : OneLine (utf8 "ParseInt") := by decide
  have hnumber : OneLine (utf8 "ParseFloat") := by decide
  cases e with
  | integer s f => simp +decide [message, Quoted.oneLine_quote, f.oneLine_message hinteger]
  | number s n f => simp +decide [message, Quoted.oneLine_quote, f.oneLine_message hnumber]
  | negative s => simp +decide [message, Quoted.oneLine_quote]

namespace Duration

theorem oneLine_quote (s : Bytes) : OneLine (quote s) := by
  have hmark : OneLine [byte '"'] := by decide
  have hx : OneLine (utf8 "\\x") := by decide
  have hbody : OneLine (s.flatMap quote.escape) := by
    refine .flatMap fun b _ => ?_
    rw [quote.escape]
    split_ifs with hcontrol hmark
    · simp [hx, Bytes.oneLine_hex]
    · rcases hmark with rfl | rfl <;> decide
    · have hle : 0x20 ≤ b := UInt8.not_lt.mp (not_or.mp hcontrol).1
      exact .of_le fun b' hb' => List.mem_singleton.mp hb' ▸ hle
  exact OneLine.append_iff.mpr ⟨OneLine.append_iff.mpr ⟨hmark, hbody⟩, hmark⟩

theorem Error.oneLine_message (e : Error) : OneLine e.message := by
  cases e <;> simp +decide [message, oneLine_quote]

theorem oneLine_showFraction (places n : Nat) : OneLine (showFraction places n) := by
  have hpoint : OneLine [byte '.'] := by decide
  have hdigits : OneLine (Bytes.trimEnd (byte '0') (Bytes.padded places n)) :=
    Bytes.oneLine_trimEnd (Bytes.oneLine_padded places n)
  rw [showFraction]
  split_ifs
  · exact .nil
  · exact OneLine.append_iff.mpr ⟨hpoint, hdigits⟩

theorem oneLine_showMagnitude (n : Nat) : OneLine (showMagnitude n) := by
  rw [showMagnitude]
  split_ifs with hsmall
  · rw [showSmall]
    split_ifs <;> simp +decide [Bytes.oneLine_decimal, oneLine_showFraction]
  · dsimp only
    split_ifs <;> simp +decide [Bytes.oneLine_decimal, oneLine_showFraction]

theorem oneLine_format (n : Int) : OneLine (format n) := by
  have hminus : OneLine [byte '-'] := by decide
  rw [format]
  split_ifs
  · exact OneLine.append_iff.mpr ⟨hminus, oneLine_showMagnitude _⟩
  · exact oneLine_showMagnitude _

end Duration

theorem Address.Error.oneLine_message (e : Error) : OneLine e.message := by
  have hfault : OneLine (utf8 e.finding.fault.message) := by
    cases e.finding.fault <;> decide
  rw [message]
  split_ifs <;> simp +decide [Quoted.oneLine_quote, hfault]

namespace Url

theorem EscapeError.oneLine_message (e : EscapeError) : OneLine e.message := by
  cases e <;> simp +decide [message, Quoted.oneLine_quote]

theorem Problem.oneLine_message (p : Problem) : OneLine p.message := by
  cases p <;>
    simp +decide [message, Quoted.oneLine_quote, Address.Error.oneLine_message,
      EscapeError.oneLine_message]

theorem ParseError.oneLine_message (e : ParseError) : OneLine e.message := by
  simp +decide [message, Quoted.oneLine_quote, Problem.oneLine_message]

end Url

namespace Config

theorem UrlProblem.oneLine_message (p : UrlProblem) : OneLine p.message := by
  cases p <;> simp +decide [message, Quoted.oneLine_quote, Url.ParseError.oneLine_message]

/-- Every problem is told on one line. -/
theorem Problem.oneLine_message (p : Problem) : OneLine p.message := by
  cases p <;>
    simp +decide [message, Quoted.oneLine_quote, Size.Error.oneLine_message,
      Duration.Error.oneLine_message, Duration.oneLine_format, UrlProblem.oneLine_message]

/-- The section of a setting. -/
def Setting.section : Setting → Section
  | .clientSecretFile | .clientId | .clientSecret | .tokenFile | .scopes => .auth
  | .fileId | .mimeType | .output | .chunkSize => .exporting
  | .url | .key => .fetch
  | .logLevel => .logging
  | .timeout | .userAgent | .driveEndpoint => .network

/-- A setting as messages name it. -/
def Setting.path (f : Setting) : Bytes := text [f.section.name, ".", f.name]

/-- The setting that a problem is about. -/
def Problem.setting : Problem → Setting
  | noScopes | emptyScope => .scopes
  | secretWithoutId => .clientSecret
  | mimeType _ => .mimeType
  | chunkSize _ | chunkRange _ => .chunkSize
  | fetchUrl _ => .url
  | logLevel _ => .logLevel
  | timeout _ | timeoutRange _ => .timeout
  | driveEndpoint _ => .driveEndpoint

theorem Setting.colon_not_mem_path (f : Setting) : byte ':' ∉ f.path := by
  cases f <;> decide

theorem Setting.path_injective : Function.Injective path := by
  have hall : ∀ f : Setting, f ∈ Section.all.flatMap Section.settings := by
    intro f
    cases f <;> decide
  have hnodup : ((Section.all.flatMap Section.settings).map path).Nodup := by decide
  exact fun f g h => List.inj_on_of_nodup_map hnodup (hall f) (hall g) h

/-- The message about a problem begins with the setting that it is about. -/
theorem Problem.message_eq (p : Problem) :
    ∃ detail, p.message = p.setting.path ++ byte ':' :: detail := by
  cases p <;> exact ⟨_, rfl⟩

/-- Whether the setting that a problem is about is wrong in the way that the problem says. -/
inductive Wrong (c : Settings) : Problem → Prop
  | noScopes (h : c.auth.scopes = []) : Wrong c .noScopes
  | emptyScope {s : Bytes} (hs : s ∈ c.auth.scopes) (h : Blank.trim s = []) : Wrong c .emptyScope
  | secretWithoutId (h : c.auth.clientSecret ≠ []) : Wrong c .secretWithoutId
  | mimeType (h : ¬IsMimeType c.exporting.mimeType) : Wrong c (.mimeType c.exporting.mimeType)
  | chunkSize {e : Size.Error} (h : Size.parse c.exporting.chunkSize = .error e) :
      Wrong c (.chunkSize e)
  | chunkRange {n : Int} (h : Size.parse c.exporting.chunkSize = .ok n)
      (hn : n < minChunk ∨ maxChunk < n) : Wrong c (.chunkRange c.exporting.chunkSize)
  | fetchUrl {p : UrlProblem} (h : c.fetch.url ≠ []) (hp : urlProblem? c.fetch.url = some p) :
      Wrong c (.fetchUrl p)
  | logLevel (h : ∀ name ∈ logLevels, utf8 name ≠ c.logging.logLevel) :
      Wrong c (.logLevel c.logging.logLevel)
  | timeout {e : Duration.Error} (h : Duration.parse c.network.timeout = .error e) :
      Wrong c (.timeout e)
  | timeoutRange {d : Int} (h : Duration.parse c.network.timeout = .ok d)
      (hd : d < minTimeout ∨ maxTimeout < d) : Wrong c (.timeoutRange d)
  | driveEndpoint {p : UrlProblem} (h : c.network.driveEndpoint ≠ [])
      (hp : urlProblem? c.network.driveEndpoint = some p) : Wrong c (.driveEndpoint p)

/-- Whether the timeout has no problem. -/
def TimeoutFits (c : Settings) : Prop :=
  ∃ d, Duration.parse c.network.timeout = .ok d ∧ minTimeout ≤ d ∧ d ≤ maxTimeout

/-- What two of the checks wait for. -/
def Asked (c : Settings) : Problem → Prop
  | .secretWithoutId => c.auth.clientId = []
  | .driveEndpoint _ => TimeoutFits c
  | _ => True

theorem mem_authProblems {c : Settings} {p : Problem} :
    p ∈ authProblems c.auth ↔ p.setting.section = .auth ∧ Wrong c p ∧ Asked c p := by
  simp only [authProblems, List.mem_append, List.mem_map, List.mem_filter, List.isEmpty_iff]
  constructor
  · rintro ((h | ⟨s, ⟨hs, hblank⟩, rfl⟩) | h)
    · split_ifs at h with hnone
      · obtain rfl := List.mem_singleton.mp h
        exact ⟨rfl, .noScopes hnone, trivial⟩
      · cases h
    · exact ⟨rfl, .emptyScope hs hblank, trivial⟩
    · split_ifs at h with hsecret
      · obtain rfl := List.mem_singleton.mp h
        exact ⟨rfl, .secretWithoutId hsecret.1, hsecret.2⟩
      · cases h
  · rintro ⟨hsection, hwrong, hasked⟩
    cases hwrong with
    | noScopes h => exact .inl (.inl (by simp [h]))
    | emptyScope hs h => exact .inl (.inr ⟨_, ⟨hs, h⟩, rfl⟩)
    | secretWithoutId h => exact .inr (by rw [if_pos ⟨h, hasked⟩]; exact List.mem_singleton_self _)
    | _ => cases hsection

theorem mem_exportProblems {c : Settings} {p : Problem} :
    p ∈ exportProblems c.exporting ↔ p.setting.section = .exporting ∧ Wrong c p ∧ Asked c p := by
  simp only [exportProblems, List.mem_append]
  constructor
  · rintro (h | h)
    · split_ifs at h with htype
      · obtain rfl := List.mem_singleton.mp h
        exact ⟨rfl, .mimeType (not_isMimeType.mpr htype), trivial⟩
      · cases h
    · cases hparse : Size.parse c.exporting.chunkSize with
      | error e =>
        rw [hparse] at h
        obtain rfl := List.mem_singleton.mp h
        exact ⟨rfl, .chunkSize hparse, trivial⟩
      | ok n =>
        simp only [hparse] at h
        split_ifs at h with hrange
        · obtain rfl := List.mem_singleton.mp h
          exact ⟨rfl, .chunkRange hparse hrange, trivial⟩
        · cases h
  · rintro ⟨hsection, hwrong, -⟩
    cases hwrong with
    | mimeType h =>
      exact .inl (by rw [if_pos (not_isMimeType.mp h)]; exact List.mem_singleton_self _)
    | chunkSize h => exact .inr (by rw [h]; exact List.mem_singleton_self _)
    | chunkRange h hn => exact .inr (by simp [h, hn])
    | _ => cases hsection

theorem mem_fetchProblems {c : Settings} {p : Problem} :
    p ∈ fetchProblems c.fetch ↔ p.setting.section = .fetch ∧ Wrong c p ∧ Asked c p := by
  constructor
  · intro h
    rw [fetchProblems] at h
    split_ifs at h with hempty
    · cases h
    · obtain ⟨q, hq, rfl⟩ := Option.map_eq_some_iff.mp (Option.mem_toList.mp h)
      exact ⟨rfl, .fetchUrl hempty hq, trivial⟩
  · rintro ⟨hsection, hwrong, -⟩
    cases hwrong with
    | fetchUrl h hp => simp [fetchProblems, h, hp]
    | _ => cases hsection

theorem mem_loggingProblems {c : Settings} {p : Problem} :
    p ∈ loggingProblems c.logging ↔ p.setting.section = .logging ∧ Wrong c p ∧ Asked c p := by
  have hlevel : (logLevels.any fun name => utf8 name == c.logging.logLevel) = false ↔
      ∀ name ∈ logLevels, utf8 name ≠ c.logging.logLevel := by
    simp
  constructor
  · intro h
    rw [loggingProblems] at h
    split_ifs at h with hknown
    · cases h
    · obtain rfl := List.mem_singleton.mp h
      exact ⟨rfl, .logLevel (hlevel.mp (Bool.not_eq_true _ ▸ hknown)), trivial⟩
  · rintro ⟨hsection, hwrong, -⟩
    cases hwrong with
    | logLevel h => simp [loggingProblems, hlevel.mpr h]
    | _ => cases hsection

theorem mem_networkProblems {c : Settings} {p : Problem} :
    p ∈ networkProblems c.network ↔ p.setting.section = .network ∧ Wrong c p ∧ Asked c p := by
  constructor
  · intro h
    rw [networkProblems] at h
    cases hparse : Duration.parse c.network.timeout with
    | error e =>
      rw [hparse] at h
      obtain rfl := List.mem_singleton.mp h
      exact ⟨rfl, .timeout hparse, trivial⟩
    | ok d =>
      simp only [hparse] at h
      split_ifs at h with hrange hempty
      · obtain rfl := List.mem_singleton.mp h
        exact ⟨rfl, .timeoutRange hparse hrange, trivial⟩
      · cases h
      · obtain ⟨q, hq, rfl⟩ := Option.map_eq_some_iff.mp (Option.mem_toList.mp h)
        obtain ⟨hmin, hmax⟩ := not_or.mp hrange
        exact ⟨rfl, .driveEndpoint hempty hq, d, hparse, not_lt.mp hmin, not_lt.mp hmax⟩
  · rintro ⟨hsection, hwrong, hasked⟩
    cases hwrong with
    | timeout h => simp [networkProblems, h]
    | timeoutRange h hd => simp [networkProblems, h, hd]
    | driveEndpoint h hp =>
      obtain ⟨d, hparse, hmin, hmax⟩ := hasked
      have hrange : ¬(d < minTimeout ∨ maxTimeout < d) :=
        not_or.mpr ⟨not_lt.mpr hmin, not_lt.mpr hmax⟩
      simp [networkProblems, hparse, hrange, h, hp]
    | _ => cases hsection

/-- A problem is reported when it is one of its setting and its check is made. -/
theorem mem_problems {c : Settings} {p : Problem} : p ∈ problems c ↔ Wrong c p ∧ Asked c p := by
  simp only [problems, List.mem_append, mem_authProblems, mem_exportProblems, mem_fetchProblems,
    mem_loggingProblems, mem_networkProblems]
  cases p.setting.section <;> simp

/-- A problem depends on the setting that it is about and on no other one. -/
theorem Wrong.congr {c c' : Settings} {p : Problem} (h : p.setting.value c = p.setting.value c')
    (hwrong : Wrong c p) : Wrong c' p := by
  have htext {f : Setting} (h : Value.string (f.getText c) = .string (f.getText c')) :
      f.getText c = f.getText c' := Value.string.inj h
  have hscopes (h : Setting.value .scopes c = Setting.value .scopes c') :
      c.auth.scopes = c'.auth.scopes :=
    List.map_injective_iff.mpr (fun _ _ => Value.string.inj) (Value.array.inj h)
  cases hwrong with
  | noScopes hnone => exact .noScopes (hscopes h ▸ hnone)
  | emptyScope hs hblank => exact .emptyScope (hscopes h ▸ hs) hblank
  | secretWithoutId hsecret =>
    have heq : c.auth.clientSecret = c'.auth.clientSecret := htext h
    exact .secretWithoutId (heq ▸ hsecret)
  | mimeType htype =>
    have heq : c.exporting.mimeType = c'.exporting.mimeType := htext h
    rw [heq] at htype ⊢
    exact .mimeType htype
  | chunkSize hparse =>
    have heq : c.exporting.chunkSize = c'.exporting.chunkSize := htext h
    exact .chunkSize (heq ▸ hparse)
  | chunkRange hparse hn =>
    have heq : c.exporting.chunkSize = c'.exporting.chunkSize := htext h
    rw [heq] at hparse ⊢
    exact .chunkRange hparse hn
  | fetchUrl hurl hp =>
    have heq : c.fetch.url = c'.fetch.url := htext h
    rw [heq] at hurl hp
    exact .fetchUrl hurl hp
  | logLevel hlevel =>
    have heq : c.logging.logLevel = c'.logging.logLevel := htext h
    rw [heq] at hlevel ⊢
    exact .logLevel hlevel
  | timeout hparse =>
    have heq : c.network.timeout = c'.network.timeout := htext h
    exact .timeout (heq ▸ hparse)
  | timeoutRange hparse hd =>
    have heq : c.network.timeout = c'.network.timeout := htext h
    exact .timeoutRange (heq ▸ hparse) hd
  | driveEndpoint hurl hp =>
    have heq : c.network.driveEndpoint = c'.network.driveEndpoint := htext h
    rw [heq] at hurl hp
    exact .driveEndpoint hurl hp

/-- The defaults with one setting as it is in other settings. -/
def Setting.alone (f : Setting) (c : Settings) : Settings :=
  match f with
  | .scopes => defaults.setScopes c.auth.scopes
  | f => f.setText (f.getText c) defaults

theorem Setting.value_alone (f g : Setting) (c : Settings) :
    g.value (f.alone c) = if g = f then f.value c else g.value defaults := by
  cases f with
  | scopes => exact value_setScopes _ _ _
  | _ => exact value_setText (by decide) _ _ _

/-- None of the checks waits for a setting when the other ones are the defaults. -/
theorem asked_alone (c : Settings) (p : Problem) : Asked (p.setting.alone c) p := by
  have hparse : Duration.parse defaults.network.timeout = .ok (60 * Duration.second) := by
    decide +kernel
  have hfits : TimeoutFits defaults := ⟨_, hparse, by decide, by decide⟩
  cases p with
  | secretWithoutId => rfl
  | driveEndpoint => exact hfits
  | _ => trivial

theorem not_wrong_defaults (p : Problem) : ¬Wrong defaults p := by
  intro hwrong
  have hdefaults : p.setting.alone defaults = defaults := by
    cases p <;> rfl
  have hasked : Asked defaults p := by
    simpa only [hdefaults] using asked_alone defaults p
  have hmem : p ∈ problems defaults := mem_problems.mpr ⟨hwrong, hasked⟩
  rw [problems_defaults] at hmem
  cases hmem

/-- Alone, a setting has the problems that are about it. -/
theorem mem_problems_alone {f : Setting} {c : Settings} {p : Problem} :
    p ∈ problems (f.alone c) ↔ p.setting = f ∧ Wrong c p := by
  have hvalue : p.setting.value (f.alone c) =
      if p.setting = f then f.value c else p.setting.value defaults := f.value_alone _ c
  rw [mem_problems]
  constructor
  · rintro ⟨hwrong, -⟩
    by_cases hf : p.setting = f
    · rw [if_pos hf, ← hf] at hvalue
      exact ⟨hf, (hf ▸ hwrong).congr hvalue⟩
    · rw [if_neg hf] at hvalue
      exact absurd (hwrong.congr hvalue) (not_wrong_defaults p)
  · rintro ⟨rfl, hwrong⟩
    rw [if_pos rfl] at hvalue
    exact ⟨hwrong.congr hvalue.symm, asked_alone c p⟩

/-- The lines of the message about all problems. -/
def errorLines (c : Settings) : List Bytes :=
  match problems c with
  | [] => []
  | ps => Bytes.split (byte '\n') (lines (ps.map Problem.message))

/-- Every problem has one line, and every line tells one problem. -/
theorem errorLines_eq (c : Settings) : errorLines c = (problems c).map Problem.message := by
  unfold errorLines
  cases hps : problems c with
  | nil => rfl
  | cons p ps =>
    refine Bytes.split_join (List.cons_ne_nil _ _) fun line hline => ?_
    obtain ⟨q, -, rfl⟩ := List.mem_map.mp hline
    exact q.oneLine_message

theorem mem_errorLines {c : Settings} {line : Bytes} :
    line ∈ errorLines c ↔ ∃ p ∈ problems c, p.message = line := by
  rw [errorLines_eq, List.mem_map]

theorem errorLines_eq_nil {c : Settings} : errorLines c = [] ↔ problems c = [] := by
  rw [errorLines_eq, List.map_eq_nil_iff]

theorem Problem.setting_eq_of_message_eq {p q : Problem} (h : p.message = q.message) :
    p.setting = q.setting := by
  obtain ⟨detail, hp⟩ := p.message_eq
  obtain ⟨detail', hq⟩ := q.message_eq
  have hcut := congrArg (Bytes.cut (byte ':')) (hp.symm.trans (h.trans hq))
  rw [Bytes.cut_append _ p.setting.colon_not_mem_path,
    Bytes.cut_append _ q.setting.colon_not_mem_path] at hcut
  exact Setting.path_injective (Prod.mk.inj (Option.some.inj hcut)).1

theorem asked_iff {c : Settings} {p : Problem} :
    Asked c p ↔ (p.setting = .clientSecret → c.auth.clientId = []) ∧
      (p.setting = .driveEndpoint → TimeoutFits c) := by
  cases p <;> simp [Asked, Problem.setting]

/-- What is wrong with a setting alone is told among all problems if its check is made at all. -/
theorem message_mem_errorLines {f : Setting} {c : Settings} {p : Problem}
    (hp : p ∈ problems (f.alone c)) : p.message ∈ errorLines c ↔ Asked c p := by
  constructor
  · intro h
    obtain ⟨q, hq, hmessage⟩ := mem_errorLines.mp h
    obtain ⟨-, hasked⟩ := mem_problems.mp hq
    rwa [asked_iff, Problem.setting_eq_of_message_eq hmessage, ← asked_iff] at hasked
  · intro hasked
    exact mem_errorLines.mpr ⟨p, mem_problems.mpr ⟨(mem_problems_alone.mp hp).2, hasked⟩, rfl⟩

theorem timeoutFits_iff {c : Settings} :
    TimeoutFits c ↔ errorLines (Setting.timeout.alone c) = [] := by
  rw [errorLines_eq_nil]
  constructor
  · rintro ⟨d, hparse, hmin, hmax⟩
    refine List.eq_nil_iff_forall_not_mem.mpr fun p hp => ?_
    obtain ⟨hsetting, hwrong⟩ := mem_problems_alone.mp hp
    cases hwrong with
    | timeout h => simp [hparse] at h
    | timeoutRange h hd =>
      obtain rfl := Except.ok.inj (hparse.symm.trans h)
      omega
    | _ => cases hsetting
  · intro h
    exact (problems_eq_nil.mp h).network.timeout

/-- When all other settings are the defaults, the message tells what is wrong with one setting and
nothing else. This is told among the problems of all settings too, with two exceptions. A secret
alone is refused, and a secret with an id is not; and what is wrong with the endpoint is not told
when the timeout has a problem as well. -/
theorem problems_accumulate_iff (c : Settings) (f : Setting) :
    (∀ line, line ∈ errorLines (f.alone c) ↔
      ∃ p : Problem, p.setting = f ∧ Wrong c p ∧ p.message = line) ∧
    ((∀ line ∈ errorLines (f.alone c), line ∈ errorLines c) ↔
      (errorLines (f.alone c) ≠ [] →
        (f = .clientSecret → c.auth.clientId = []) ∧
          (f = .driveEndpoint → errorLines (Setting.timeout.alone c) = []))) := by
  have hlines : (∀ line ∈ errorLines (f.alone c), line ∈ errorLines c) ↔
      ∀ p ∈ problems (f.alone c), Asked c p := by
    constructor
    · intro h p hp
      exact (message_mem_errorLines hp).mp (h _ (mem_errorLines.mpr ⟨p, hp, rfl⟩))
    · intro h line hline
      obtain ⟨p, hp, rfl⟩ := mem_errorLines.mp hline
      exact (message_mem_errorLines hp).mpr (h p hp)
  have hasked : ∀ p ∈ problems (f.alone c), (Asked c p ↔
      (f = .clientSecret → c.auth.clientId = []) ∧
        (f = .driveEndpoint → errorLines (Setting.timeout.alone c) = [])) := by
    intro p hp
    rw [asked_iff, (mem_problems_alone.mp hp).1, timeoutFits_iff]
  refine ⟨fun line => by simp only [mem_errorLines, mem_problems_alone, and_assoc], ?_⟩
  rw [hlines, Ne, errorLines_eq_nil]
  constructor
  · intro h hne
    obtain ⟨p, hp⟩ := List.exists_mem_of_ne_nil _ hne
    exact (hasked p hp).mp (h p hp)
  · intro h p hp
    exact (hasked p hp).mpr (h (List.ne_nil_of_mem hp))

/-- Settings with a timeout that is no duration and an endpoint that is no web address. -/
def twiceWrong : Settings := { defaults with network := ⟨"x", [], "ftp://h/"⟩ }

/-- The problem with the timeout hides the one with the endpoint. -/
theorem twiceWrong_told_once :
    errorLines (Setting.driveEndpoint.alone twiceWrong) =
        [utf8 "network.drive_endpoint: scheme must be http or https, got \"ftp\""] ∧
      errorLines twiceWrong = [utf8 "network.timeout: time: invalid duration \"x\""] ∧
      ¬∀ line ∈ errorLines (Setting.driveEndpoint.alone twiceWrong),
        line ∈ errorLines twiceWrong := by
  have htold : errorLines twiceWrong = [utf8 "network.timeout: time: invalid duration \"x\""] := by
    decide +kernel
  have halone : errorLines (Setting.driveEndpoint.alone twiceWrong) =
      [utf8 "network.drive_endpoint: scheme must be http or https, got \"ftp\""] := by
    decide +kernel
  have htimeout : errorLines (Setting.timeout.alone twiceWrong) ≠ [] := by decide +kernel
  refine ⟨halone, htold, ?_⟩
  rw [(problems_accumulate_iff twiceWrong .driveEndpoint).2]
  intro h
  exact htimeout ((h (by simp [halone])).2 rfl)

end Config

end DocPull
