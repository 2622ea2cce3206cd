import DocPull.Cli.Run
import DocPull.Proofs.Config.Resolve
import DocPull.Proofs.Export.Calls
import DocPull.Proofs.Number.Decimal

/-!
# What the rest of the program may rely on

Settings in effect lie within the bounds that the checks ask for. So signing in is never refused for
its options, and a stream that starts with the chunk size in effect asks for ranges of exactly this
size, in numbers that fit 64 bits, for as long as it holds less than two to the sixty-second bytes.
-/
open DocPull.Files

namespace DocPull.Stream

variable {φ σ ε : Type}

/-- The streams that some calls for chunks lead to, from a stream of a chunk size that holds
nothing. -/
inductive Reached (q : Quotients φ) (src : ChunkSource σ ε) (chunkSize : Int) : Stream φ → Prop
  | start : Reached q src chunkSize (start q chunkSize)
  | next {s : Stream φ} (hs : Reached q src chunkSize s) (w : σ) :
      Reached q src chunkSize (s.next q src w).2.1

theorem Reached.chunkSize_eq {q : Quotients φ} {src : ChunkSource σ ε} {chunkSize : Int}
    {s : Stream φ} (h : Reached q src chunkSize s) (hpos : 0 < chunkSize) :
    s.chunkSize = chunkSize := by
  induction h with
  | start => exact if_neg (by omega)
  | next hs w ih => rw [next_chunkSize, ih]

/-- A range in numbers that do not wrap around. -/
structure Plain (s : Stream φ) (chunkSize : Int) : Prop where
  range : s.range = (↑s.received, ↑s.received + chunkSize - 1)
  ordered : 0 ≤ s.range.1 ∧ s.range.1 ≤ s.range.2
  length : s.range.2 - s.range.1 + 1 = chunkSize
  fits : s.received + chunkSize < 2 ^ 63
  sum : Numeral.wrap (s.received + s.chunkSize) = s.received + chunkSize

theorem plain_of_received_lt {s : Stream φ} {chunkSize : Int} (hsize : s.chunkSize = chunkSize)
    (hlow : 0 < chunkSize) (hhigh : chunkSize ≤ 2 ^ 30) (hreceived : s.received < 2 ^ 62) :
    s.Plain chunkSize := by
  have hlast : Numeral.wrap (s.received + chunkSize - 1) = s.received + chunkSize - 1 :=
    Numeral.wrap_eq_self ⟨by omega, by omega⟩
  have hrange : s.range = (↑s.received, ↑s.received + chunkSize - 1) := by
    rw [Stream.range, hsize, hlast]
  refine ⟨hrange, ?_, ?_, by omega, ?_⟩
  · rw [hrange]
    dsimp only
    omega
  · rw [hrange]
    dsimp only
    omega
  · rw [hsize]
    exact Numeral.wrap_eq_self ⟨by omega, by omega⟩

end DocPull.Stream

namespace DocPull.Config

/-- The bounds of settings in effect. -/
structure Resolved.Bounded (r : Resolved) : Prop where
  chunkSize : 262144 ≤ r.chunkSize ∧ r.chunkSize ≤ 2 ^ 30
  timeout : 1000000000 ≤ r.timeout ∧ r.timeout ≤ 3600 * 1000000000
  tokenFile : r.settings.auth.tokenFile ≠ []
  scopes : r.settings.auth.scopes ≠ []
  notBlank : ∀ s ∈ r.settings.auth.scopes, Blank.trim s ≠ []
  identified : r.settings.auth.clientId = [] → r.settings.auth.clientSecret = []
  fetchUrl : r.settings.fetch.url ≠ [] → IsHttpUrl r.settings.fetch.url
  driveEndpoint : r.settings.network.driveEndpoint ≠ [] →
    IsHttpUrl r.settings.network.driveEndpoint

theorem bounded_of_resolve {t : Tree} {env : Environment} {cli : Overrides} {r : Resolved}
    (h : resolve t env cli = .ok r) : r.Bounded := by
  obtain ⟨file, -, -, hall, htoken, rfl⟩ := resolve_eq_ok.mp h
  obtain ⟨hauth, hexport, hfetch, -, hnetwork⟩ := problems_eq_nil.mp hall
  obtain ⟨n, hsize, hn⟩ := hexport.chunkSize
  obtain ⟨d, htimeout, hd⟩ := hnetwork.timeout
  have hchunk : (Resolved.ofSettings (merged env cli file) (chosenPath env cli)).chunkSize = n := by
    simp [Resolved.ofSettings, hsize, Except.toOption]
  have htime : (Resolved.ofSettings (merged env cli file) (chosenPath env cli)).timeout = d := by
    simp [Resolved.ofSettings, htimeout, Except.toOption]
  refine ⟨hchunk ▸ hn, htime ▸ hd, htoken, hauth.scopes, hauth.notBlank, ?_, hfetch,
    hnetwork.driveEndpoint⟩
  intro hid
  by_contra hsecret
  exact hauth.identified hsecret hid

/-- Signing in takes the options that settings within their bounds give. -/
theorem Resolved.Bounded.check_authOptions {j : Cli.Job} (h : j.resolved.Bounded) :
    (Cli.authOptions j).check = .ok (Cli.authOptions j) := by
  have htoken : (Cli.authOptions j).tokenPath ≠ [] := h.tokenFile
  have hscopes : (Cli.authOptions j).scopes ≠ [] := h.scopes
  rw [Auth.Options.check, if_neg htoken, if_neg hscopes]

/-- Settings in effect lie within their bounds. Hence signing in takes their options, and every
stream of their chunk size has this size, and asks its source for ranges of this size without a
wrap-around as long as it has received less than two to the sixty-second bytes. -/
theorem resolve_bounded {t : Tree} {env : Environment} {cli : Overrides} {r : Resolved}
    (h : resolve t env cli = .ok r) :
    r.Bounded ∧
      (∀ j : Cli.Job, j.resolved = r → (Cli.authOptions j).check = .ok (Cli.authOptions j)) ∧
      ∀ {φ σ ε : Type} (q : Quotients φ) (src : ChunkSource σ ε),
        (Stream.start q r.chunkSize).chunkSize = r.chunkSize ∧
          ∀ s : Stream φ, Stream.Reached q src r.chunkSize s → s.received < 2 ^ 62 →
            s.Plain r.chunkSize ∧
              (s.done = false → ∀ w, (s.next q src w).2.2 =
                (src.fetch s.received (s.received + r.chunkSize - 1) w).2) := by
  have hbounded := bounded_of_resolve h
  obtain ⟨hlow, hhigh⟩ := hbounded.chunkSize
  refine ⟨hbounded, ?_, fun q src => ⟨if_neg (by omega), fun s hs hreceived => ?_⟩⟩
  · rintro j rfl
    exact hbounded.check_authOptions
  · have hplain : s.Plain r.chunkSize :=
      Stream.plain_of_received_lt (hs.chunkSize_eq (by omega)) (by omega) hhigh hreceived
    refine ⟨hplain, fun hdone w => ?_⟩
    rw [Stream.next_world q src hdone, hplain.range]

/-- A file with sizes, places and an identity of its own. -/
def ownFile : Bytes :=
  text ["[auth]\nclient_id = \"file\"\nclient_secret = \"secret\"\nscopes = [\"a\", \"b\"]\n",
    "[export]\nchunk_size = \"1.5MiB\"\n", "[fetch]\nurl = \"https://host/doc\"\n",
    "[network]\ntimeout = \"1m30s\"\ndrive_endpoint = \"http://localhost:8080/\"\n"]

/-- The environment and the command line that go with it. -/
def ownEnvironment : Environment :=
  [("HOME", "home"), ("GRABDOC_CONFIG", "c.toml"), ("GRABDOC_CLIENT_ID", "env")]
def ownOverrides : Overrides := { mimeType := "text/plain" }

/-- The beginning of a document of ten bytes, in two parts. -/
def firstParts : List (Except Unit Chunk) :=
  [.ok ⟨"ab", some 10, false⟩, .ok ⟨"cde", some 10, false⟩]

/-- A stream of a chunk size that has taken in these parts. -/
def afterParts (chunkSize : Int) : Stream Binary64 :=
  (Stream.calls .binary64 (Stream.scripted ()) 2 (Stream.start .binary64 chunkSize) firstParts).2.1

theorem reached_afterParts (chunkSize : Int) :
    Stream.Reached .binary64 (Stream.scripted ()) chunkSize (afterParts chunkSize) :=
  (Stream.Reached.start.next firstParts).next firstParts.tail

/-- The settings of such a file are within their bounds, and a stream of their chunk size asks for
the range after the parts that it has received. -/
theorem ownFile_bounded :
    ∃ r, resolve (configured ownFile) ownEnvironment ownOverrides = .ok r ∧ r.Bounded ∧
      r.settings.fetch.url = utf8 "https://host/doc" ∧
      r.settings.network.driveEndpoint = utf8 "http://localhost:8080/" ∧
      r.settings.auth.clientId = utf8 "env" ∧ r.timeout = 90000000000 ∧ r.chunkSize = 1572864 ∧
      (afterParts r.chunkSize).received = 5 ∧ (afterParts r.chunkSize).Plain 1572864 ∧
      (afterParts r.chunkSize).range = (5, 1572868) := by
  have hok : ((resolve (configured ownFile) ownEnvironment ownOverrides).toOption.map fun r =>
      (r.settings.fetch.url, r.settings.network.driveEndpoint, r.settings.auth.clientId, r.timeout,
        r.chunkSize)) = some (utf8 "https://host/doc", utf8 "http://localhost:8080/", utf8 "env",
          90000000000, 1572864) := by
    decide +kernel
  obtain ⟨r, hr, hshown⟩ := Option.map_eq_some_iff.mp hok
  simp only [Prod.mk.injEq] at hshown
  obtain ⟨hurl, hendpoint, hid, htimeout, hsize⟩ := hshown
  have hresolve := Outcome.toOption_eq_some.mp hr
  obtain ⟨hbounded, -, hstream⟩ := resolve_bounded hresolve
  have hreceived : (afterParts r.chunkSize).received = 5 := by
    rw [hsize]
    decide +kernel
  have hplain : (afterParts r.chunkSize).Plain 1572864 := by
    rw [← hsize]
    exact ((hstream .binary64 _).2 _ (reached_afterParts r.chunkSize) (by omega)).1
  have hrange : (afterParts r.chunkSize).range = (5, 1572868) := by
    rw [hplain.range, hreceived]
    rfl
  exact ⟨r, hresolve, hbounded, hurl, hendpoint, hid, htimeout, hsize, hreceived, hplain, hrange⟩

end DocPull.Config
