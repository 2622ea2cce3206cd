import DocPull.Proofs.Export.Calls

/-!
# The fraction of a document

With exact quotients, the fraction that a stream reports is a position between nothing and the whole
document that never goes back: it is larger than zero and smaller than one while there is more to
ask for, whatever totals a source states, changes or withholds, and one in the end. Only the range
of the numbers is a condition, because an estimate adds the size of a range to what is held.
-/
namespace DocPull

/-- Fractions as exact quotients. -/
def Quotients.exact : Quotients ℚ := ⟨0, 1, fun a b => a / b, fun a b => decide (a < b)⟩

namespace Stream

variable {σ ε : Type}

/-- The fraction that is reported is the larger one of what was reported before and what is
estimated now. -/
theorem report_exact (s : Stream ℚ) :
    (s.report .exact).1.fraction = max s.fraction (s.estimate .exact) := by
  simp only [report, Quotients.exact, decide_eq_true_eq]
  split_ifs with h
  · exact (max_eq_left h.le).symm
  · exact (max_eq_right (not_lt.mp h)).symm

/-- A stream that has taken in a part of a document, in numbers that fit 64 bits. -/
structure Underway {φ : Type} (s : Stream φ) : Prop where
  goesOn : s.done = false
  received : 0 < s.received
  missing : ∀ t, s.total = some t → s.received < t
  chunkSize : 0 < s.chunkSize
  fits : s.total = none → s.received + s.chunkSize < 2 ^ 63

theorem Takes.underway {φ : Type} {s u : Stream φ} {c : Chunk} (h : s.Takes c u)
    (hf : u.done = false) (hsize : 0 < s.chunkSize) (hfew : s.received + c.data.length < 2 ^ 62) :
    u.Underway := by
  cases h with
  | whole f hc => cases hf
  | last f hc he => cases hf
  | more f hc hmore =>
    rw [GoesOn] at hmore
    cases ht : s.totalAfter c with
    | none =>
      simp only [ht] at hmore
      exact ⟨hf, by simp only; omega, by simp, hsize, fun _ => by simp only; omega⟩
    | some t =>
      simp only [ht] at hmore
      exact ⟨hf, by simp only; omega, by rintro t' ⟨⟩; exact hmore.1, hsize, by simp⟩

theorem Underway.estimate_between {s : Stream ℚ} (h : s.Underway) :
    0 < s.estimate .exact ∧ s.estimate .exact < 1 := by
  have hreceived : (0 : ℚ) < s.received := by exact_mod_cast h.received
  have hsize : (0 : ℚ) < s.chunkSize := by exact_mod_cast h.chunkSize
  simp only [estimate, h.goesOn, Bool.false_eq_true, if_false]
  cases ht : s.total with
  | none =>
    have hpos := h.chunkSize
    have hfits := h.fits ht
    have hwrap : Numeral.wrap (s.received + s.chunkSize) = s.received + s.chunkSize :=
      Numeral.wrap_eq_self ⟨by omega, by omega⟩
    simp only [Quotients.exact, hwrap]
    push_cast
    exact ⟨by positivity, (div_lt_one (by positivity)).mpr (by linarith)⟩
  | some t =>
    have hlt := h.missing t ht
    cases t with
    | zero => omega
    | succ t =>
      have hbelow : (s.received : ℚ) < (t + 1 : Nat) := by exact_mod_cast hlt
      simp only [Quotients.exact]
      push_cast at hbelow ⊢
      exact ⟨by positivity, (div_lt_one (by positivity)).mpr hbelow⟩

/-- A fraction that a stream may have reported last. -/
structure Level (s : Stream ℚ) : Prop where
  low : 0 ≤ s.fraction
  high : s.done = false → s.fraction < 1

/-- A report that fits a stream: its fraction is the stream's, one for a final report, and strictly
between zero and one for any other. -/
structure Fits (p : Progress ℚ) (s : Stream ℚ) : Prop where
  fraction : p.fraction = s.fraction
  final : p.final = s.done
  between : p.final = false → 0 < p.fraction ∧ p.fraction < 1
  whole : p.final = true → p.fraction = 1

/-- One more chunk does not lower the fraction, and its report fits the new stream. -/
theorem take_fits {s s' : Stream ℚ} {c : Chunk} {p : Progress ℚ} (hs : s.Level)
    (hd : s.done = false) (hsize : 0 < s.chunkSize) (hfew : s.received + c.data.length < 2 ^ 62)
    (h : s.take (ε := ε) .exact c = (.ok p, s')) : s.fraction ≤ s'.fraction ∧ Fits p s' := by
  obtain ⟨u, hreport, hfraction, htakes⟩ := take_reports h
  have htaken : s.Takes c u := htakes u.fraction
  clear htakes
  have hshown := (take_ok h).2
  have hmax : p.fraction = max s.fraction (u.estimate .exact) := by
    rw [← hfraction, ← report_exact, hreport]
  have hdone : p.final = u.done := (congrArg (fun r => r.1.final) hreport).symm
  have hle : s.fraction ≤ p.fraction := hmax ▸ le_max_left _ _
  have hp : p.fraction = s'.fraction := hshown ▸ rfl
  refine ⟨hp ▸ hle, hp, hshown ▸ rfl, fun hf => ?_, fun hf => ?_⟩
  · rw [hdone] at hf
    obtain ⟨hpos, hone⟩ := (htaken.underway hf hsize hfew).estimate_between
    exact ⟨hmax ▸ lt_max_of_lt_right hpos, hmax ▸ max_lt (hs.high hd) hone⟩
  · rw [hdone] at hf
    have hone : u.estimate .exact = 1 := by simp [estimate, hf, Quotients.exact]
    rw [hmax, hone]
    exact max_eq_right (hs.high hd).le

/-- Reports in order: their fractions never go back, lie strictly between zero and one as long as
there is more to ask for, and are one in the end. The stream knows the last of them. -/
structure Rising (s : Stream ℚ) (ps : List (Progress ℚ)) : Prop where
  level : s.Level
  monotone : ps.Pairwise fun p p' => p.fraction ≤ p'.fraction
  reached : ∀ p ∈ ps, p.fraction ≤ s.fraction
  between : ∀ p ∈ ps, p.final = false → 0 < p.fraction ∧ p.fraction < 1
  whole : ∀ p ∈ ps, p.final = true → p.fraction = 1
  goesOn : s.done = false → ∀ p ∈ ps, p.final = false
  last : ∀ p ∈ ps.dropLast, p.final = false

namespace Rising

variable {s s' : Stream ℚ} {ps : List (Progress ℚ)}

theorem concat (h : Rising s ps) (hd : s.done = false) {p : Progress ℚ}
    (hle : s.fraction ≤ s'.fraction) (hp : Fits p s') : Rising s' (ps ++ [p]) where
  level := ⟨h.level.low.trans hle, fun hs' => hp.fraction ▸ (hp.between (hp.final ▸ hs')).2⟩
  monotone := by
    refine List.pairwise_append.mpr ⟨h.monotone, List.pairwise_singleton _ _, ?_⟩
    intro p₁ hp₁ p₂ hp₂
    obtain rfl := List.mem_singleton.mp hp₂
    exact hp.fraction ▸ (h.reached p₁ hp₁).trans hle
  reached := List.forall_mem_append.mpr ⟨fun p₁ hp₁ => (h.reached p₁ hp₁).trans hle,
    List.forall_mem_singleton.mpr hp.fraction.le⟩
  between := List.forall_mem_append.mpr ⟨h.between, List.forall_mem_singleton.mpr hp.between⟩
  whole := List.forall_mem_append.mpr ⟨h.whole, List.forall_mem_singleton.mpr hp.whole⟩
  goesOn hs' := List.forall_mem_append.mpr
    ⟨h.goesOn hd, List.forall_mem_singleton.mpr (hp.final ▸ hs')⟩
  last := by
    rw [List.dropLast_concat]
    exact h.goesOn hd

/-- Every call keeps the reports in order, as long as few enough bytes were given. -/
theorem call {size : Int} {fs new : List (Fetch ε)}
    {r : Except (StreamError ε) (Progress ℚ)} (h : Rising s ps) (hf : Follows size s fs)
    (hsize : 0 < size) (hcall : Call .exact s r s' new)
    (hfew : (bytesOf (fs ++ new)).length < 2 ^ 62) : Rising s' (ps ++ reports [r]) := by
  cases hcall with
  | finished hd => simpa using h
  | failed hd e => simpa using h
  | taken hd c ht =>
    cases r with
    | error e =>
      obtain ⟨-, -, rfl, -⟩ := take_error ht
      have hkept : Rising (s.add c) ps :=
        ⟨⟨h.level.low, h.level.high⟩, h.monotone, h.reached, h.between, h.whole, h.goesOn, h.last⟩
      simpa using hkept
    | ok p =>
      have hbytes : s.received + c.data.length < 2 ^ 62 := by
        rw [hf.received, hf.content hd]
        simpa [bytesOf] using hfew
      obtain ⟨hle, hp⟩ := take_fits h.level hd (hf.chunkSize ▸ hsize) hbytes ht
      exact h.concat hd hle hp

end Rising

/-- Any number of calls keeps the reports in order, as long as few enough bytes were given. -/
theorem rising_calls (src : ChunkSource σ ε) (chunkSize : Int) (n : Nat) (w : σ)
    (hfew : (bytesOf (record .exact src n (start .exact chunkSize) w)).length < 2 ^ 62) :
    Rising (calls .exact src n (start .exact chunkSize) w).2.1
      (reports (calls .exact src n (start .exact chunkSize) w).1) := by
  let I (rs : List (Except (StreamError ε) (Progress ℚ))) (s : Stream ℚ) (fs : List (Fetch ε)) :=
    Follows (rangeSize chunkSize) s fs ∧ ((bytesOf fs).length < 2 ^ 62 → Rising s (reports rs))
  have hstart : I [] (start .exact chunkSize) [] :=
    ⟨follows_start _ _, fun _ => ⟨⟨le_rfl, fun _ => one_pos⟩, by simp [reports], by simp [reports],
      by simp [reports], by simp [reports], by simp [reports], by simp [reports]⟩⟩
  have hstep : ∀ rs s fs r s' new, I rs s fs → Call .exact s r s' new →
      I (rs ++ [r]) s' (fs ++ new) := by
    rintro rs s fs r s' new ⟨hf, hrising⟩ hcall
    refine ⟨hf.call (rangeSize_pos chunkSize) hcall, fun hfew => ?_⟩
    have hbefore : (bytesOf fs).length < 2 ^ 62 := by
      rw [bytesOf, given_append, List.flatMap_append, List.length_append] at hfew
      exact (Nat.le_add_right _ _).trans_lt hfew
    have hnext := (hrising hbefore).call hf (rangeSize_pos chunkSize) hcall hfew
    rwa [reports_append]
  exact (calls_keep hstep src n w hstart).2 hfew

/-- A fraction as a whole percentage, rounded down. -/
def wholePercent (f : ℚ) : ℤ := ⌊100 * f⌋

theorem wholePercent_mono {f g : ℚ} (h : f ≤ g) : wholePercent f ≤ wholePercent g :=
  Int.floor_le_floor (by linarith)

theorem wholePercent_lt {f : ℚ} (h : f < 1) : wholePercent f ≤ 99 := by
  have hlt : wholePercent f < 100 := Int.floor_lt.mpr (by push_cast; linarith)
  omega

theorem wholePercent_one : wholePercent 1 = 100 := by
  norm_num [wholePercent]

/-- For every source, chunk size and number of calls, as long as the source gives less than two to
the sixty-second bytes. The fractions that are reported never go back, lie strictly between zero and
one before the final report, and are one on it; so their whole percentages never go back, are at
most 99 before the final report, and are 100 on it. Only the last report is final. -/
theorem calls_fraction (src : ChunkSource σ ε) (chunkSize : Int) (n : Nat) (w : σ)
    (hfew : (bytesOf (record .exact src n (start .exact chunkSize) w)).length < 2 ^ 62) :
    let ps := reports (calls .exact src n (start .exact chunkSize) w).1
    ps.Pairwise (fun p p' => p.fraction ≤ p'.fraction) ∧
    (∀ p ∈ ps, p.final = false → 0 < p.fraction ∧ p.fraction < 1) ∧
    (∀ p ∈ ps, p.final = true → p.fraction = 1) ∧
    ps.Pairwise (fun p p' => wholePercent p.fraction ≤ wholePercent p'.fraction) ∧
    (∀ p ∈ ps, p.final = false → wholePercent p.fraction ≤ 99) ∧
    (∀ p ∈ ps, p.final = true → wholePercent p.fraction = 100) ∧
    ∀ p ∈ ps.dropLast, p.final = false := by
  intro ps
  have h := rising_calls src chunkSize n w hfew
  refine ⟨h.monotone, h.between, h.whole, h.monotone.imp wholePercent_mono, ?_, ?_, h.last⟩
  · intro p hp hf
    exact wholePercent_lt (h.between p hp hf).2
  · intro p hp hf
    rw [h.whole p hp hf, wholePercent_one]

/-- Answers that state a total late, raise and withhold it, with two failures in between. -/
def mixedScript : List (Except Unit Chunk) :=
  [.ok ⟨"abc", none, false⟩, .error (), .ok ⟨"de", some 20, false⟩, .ok ⟨[], some 10, false⟩,
    .ok ⟨"f", none, false⟩, .ok ⟨"whole", none, true⟩]

/-- The calls for the answers of the script, in ranges of three bytes. -/
def mixedCalls : List (Except (StreamError Unit) (Progress ℚ)) :=
  (calls .exact (scripted ()) 7 (start .exact 3) mixedScript).1

/-- The first estimate stands until a known total exceeds it. -/
theorem mixedCalls_fraction :
    (reports mixedCalls).map (fun p => (p.fraction, p.final)) =
        [(1 / 2, false), (1 / 2, false), (3 / 5, false), (1, true)] ∧
      (reports mixedCalls).Pairwise
        (fun p p' => wholePercent p.fraction ≤ wholePercent p'.fraction) := by
  have hfew : (bytesOf (record .exact (scripted ()) 7 (start .exact 3) mixedScript)).length <
      2 ^ 62 := by
    decide +kernel
  obtain ⟨-, -, -, hpercent, -⟩ := calls_fraction (scripted ()) 3 7 mixedScript hfew
  exact ⟨by decide +kernel, hpercent⟩

end Stream

end DocPull
