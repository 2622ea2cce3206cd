import DocPull.Export.Stream
import Mathlib.Tactic

/-!
# What a stream takes in

One chunk either is the whole document, ends the stream, or lets it go on; nothing else leads to a
report. A run is the list of its successful steps, and what every step keeps holds in the end.
-/
namespace DocPull

namespace Stream

variable {φ σ ε : Type} {q : Quotients φ} {src : ChunkSource σ ε} {note : Progress φ → σ → σ}

/-- The total that is known once a chunk is added. -/
def totalAfter (s : Stream φ) (c : Chunk) : Option Nat := c.total.or s.total

/-- A chunk after which nothing is missing: the known total is reached, or the total is not known
and the chunk is short. -/
def Ends (s : Stream φ) (c : Chunk) : Prop :=
  match s.totalAfter c with
  | some t => t ≤ s.received + c.data.length
  | none => (c.data.length : Int) < s.chunkSize

/-- A chunk after which there is more to ask for. -/
def GoesOn (s : Stream φ) (c : Chunk) : Prop :=
  match s.totalAfter c with
  | some t => s.received + c.data.length < t ∧ c.data.length ≠ 0
  | none => s.chunkSize ≤ c.data.length

/-- What a chunk that is taken in makes of a stream; the fraction is left open. -/
inductive Takes (s : Stream φ) (c : Chunk) : Stream φ → Prop where
  | whole (f : φ) (hc : c.complete = true) :
      Takes s c ⟨s.chunkSize, c.data, c.data.length, some c.data.length, f, true⟩
  | last (f : φ) (hc : c.complete = false) (h : s.Ends c) :
      Takes s c ⟨s.chunkSize, s.content ++ c.data, s.received + c.data.length, s.totalAfter c, f,
        true⟩
  | more (f : φ) (hc : c.complete = false) (h : s.GoesOn c) :
      Takes s c ⟨s.chunkSize, s.content ++ c.data, s.received + c.data.length, s.totalAfter c, f,
        s.done⟩

/-- The report that goes with a stream. -/
def shown (s : Stream φ) : Progress φ := ⟨s.received, s.total, s.fraction, s.done⟩

theorem report_snd (q : Quotients φ) (s : Stream φ) :
    ∃ f, (s.report q).2 = { s with fraction := f } :=
  ⟨(s.report q).2.fraction, rfl⟩

theorem report_fst (q : Quotients φ) (s : Stream φ) : (s.report q).1 = (s.report q).2.shown := rfl

/-- A chunk that was taken in is followed by the report on the new stream. -/
theorem takes_report {s u : Stream φ} {c : Chunk} (q : Quotients φ)
    (h : ∀ f, Takes s c { u with fraction := f }) :
    Takes s c (u.report q).2 ∧ (u.report q).1 = (u.report q).2.shown := by
  obtain ⟨f, hf⟩ := report_snd q u
  refine ⟨?_, report_fst q u⟩
  rw [hf]
  exact h f

/-- A chunk that is reported on was taken in, up to the fraction, and then the report was made. -/
theorem take_reports {s s' : Stream φ} {c : Chunk} {p : Progress φ}
    (h : s.take (ε := ε) q c = (.ok p, s')) :
    ∃ u : Stream φ, u.report q = (p, s') ∧ u.fraction = s.fraction ∧
      ∀ f, Takes s c { u with fraction := f } := by
  have hadd : (s.add c).total = s.totalAfter c := rfl
  by_cases hc : c.complete = true
  · simp only [take, hc, if_true, Prod.mk.injEq, Except.ok.injEq] at h
    exact ⟨_, Prod.ext h.1 h.2, rfl, fun f => .whole f hc⟩
  · rw [Bool.not_eq_true] at hc
    simp only [take, hc, if_false, Bool.false_eq_true] at h
    cases ht : s.totalAfter c with
    | some t =>
      simp only [hadd, ht] at h
      split_ifs at h with hle hn
      · simp only [Prod.mk.injEq, Except.ok.injEq] at h
        refine ⟨_, Prod.ext h.1 h.2, rfl, fun f => ?_⟩
        rw [← ht]
        refine .last f hc ?_
        simp only [Ends, ht]
        exact hle
      · simp at h
      · simp only [Prod.mk.injEq, Except.ok.injEq] at h
        refine ⟨_, Prod.ext h.1 h.2, rfl, fun f => .more f hc ?_⟩
        simp only [GoesOn, ht]
        exact ⟨lt_of_not_ge hle, hn⟩
    | none =>
      simp only [hadd, ht] at h
      split_ifs at h with hlt
      · simp only [Prod.mk.injEq, Except.ok.injEq] at h
        refine ⟨_, Prod.ext h.1 h.2, rfl, fun f => ?_⟩
        rw [← ht]
        refine .last f hc ?_
        simp only [Ends, ht]
        exact hlt
      · simp only [Prod.mk.injEq, Except.ok.injEq] at h
        refine ⟨_, Prod.ext h.1 h.2, rfl, fun f => .more f hc ?_⟩
        simp only [GoesOn, ht]
        exact not_lt.mp hlt

/-- Every chunk that is reported on was taken in, and the report is on the new stream. -/
theorem take_ok {s s' : Stream φ} {c : Chunk} {p : Progress φ}
    (h : s.take (ε := ε) q c = (.ok p, s')) : Takes s c s' ∧ p = s'.shown := by
  obtain ⟨u, hr, -, hu⟩ := take_reports h
  have htaken := takes_report q hu
  rw [hr] at htaken
  exact htaken

/-- The only chunk that is refused has no data, while more is known to be missing. What it states
about the total is kept. -/
theorem take_error {s s' : Stream φ} {c : Chunk} {e : StreamError ε}
    (h : s.take q c = (.error e, s')) :
    c.complete = false ∧ c.data = [] ∧ s' = s.add c ∧
      ∃ t, s.totalAfter c = some t ∧ s.received < t ∧ e = .noProgress s.received t := by
  by_cases hc : c.complete = true
  · simp [take, hc] at h
  · rw [Bool.not_eq_true] at hc
    have hadd : (s.add c).total = s.totalAfter c := rfl
    simp only [take, hc, if_false, Bool.false_eq_true] at h
    cases ht : s.totalAfter c with
    | some t =>
      simp only [hadd, ht] at h
      split_ifs at h with hle hn
      · simp at h
      · have hnil : c.data = [] := List.length_eq_zero_iff.mp hn
        have hreceived : (s.add c).received = s.received := by simp [add, hnil]
        simp only [hreceived, Prod.mk.injEq, Except.error.injEq] at hle h
        exact ⟨hc, hnil, h.2.symm, t, rfl, lt_of_not_ge hle, h.1.symm⟩
      · simp at h
    | none =>
      simp only [hadd, ht] at h
      split_ifs at h
      · simp at h
      · simp at h

/-- A chunk that is the whole document, ends the stream or lets it go on is reported on. -/
theorem take_isOk {s : Stream φ} {c : Chunk} (h : c.complete = true ∨ s.Ends c ∨ s.GoesOn c) :
    ∃ p s', s.take (ε := ε) q c = (.ok p, s') := by
  by_cases hc : c.complete = true
  · simp only [take, hc, if_true]
    exact ⟨_, _, rfl⟩
  · have hne := h.resolve_left hc
    have hadd : (s.add c).total = s.totalAfter c := rfl
    have hrec : (s.add c).received = s.received + c.data.length := rfl
    have hsize : (s.add c).chunkSize = s.chunkSize := rfl
    simp only [take, hc, if_false, Bool.false_eq_true, hadd, hrec, hsize]
    simp only [Ends, GoesOn] at hne
    cases ht : s.totalAfter c with
    | some t =>
      simp only [ht] at hne ⊢
      split_ifs with hle hn
      · exact ⟨_, _, rfl⟩
      · omega
      · exact ⟨_, _, rfl⟩
    | none =>
      simp only
      split_ifs <;> exact ⟨_, _, rfl⟩

/-- A successful call asked the source for the next range and took its chunk in. -/
theorem next_ok {s s' : Stream φ} {w w' : σ} {p : Progress φ}
    (h : s.next q src w = (.ok p, s', w')) :
    s.done = false ∧ ∃ c, src.fetch s.range.1 s.range.2 w = (.ok c, w') ∧ Takes s c s' ∧
      p = s'.shown := by
  simp only [next] at h
  split_ifs at h with hd
  · simp at h
  · refine ⟨by simpa using hd, ?_⟩
    cases hr : src.fetch s.range.1 s.range.2 w with
    | mk r w₁ =>
      cases r with
      | error e => simp [hr] at h
      | ok c =>
        simp only [hr, Prod.mk.injEq] at h
        obtain ⟨h₁, h₂, rfl⟩ := h
        exact ⟨c, rfl, take_ok (ε := ε) (q := q) (Prod.ext h₁ h₂)⟩

theorem next_of_fetch {s s' : Stream φ} {w w' : σ} {c : Chunk} {p : Progress φ}
    (hd : s.done = false) (hf : src.fetch s.range.1 s.range.2 w = (.ok c, w'))
    (ht : s.take (ε := ε) q c = (.ok p, s')) : s.next q src w = (.ok p, s', w') := by
  simp [next, hd, hf, ht]

/-- A call leaves the source where its fetch left it. -/
theorem next_world (q : Quotients φ) (src : ChunkSource σ ε) {s : Stream φ} (hd : s.done = false)
    (w : σ) : (s.next q src w).2.2 = (src.fetch s.range.1 s.range.2 w).2 := by
  simp only [next, hd, Bool.false_eq_true, if_false]
  cases src.fetch s.range.1 s.range.2 w with
  | mk r w₁ => cases r <;> rfl

theorem take_chunkSize (q : Quotients φ) (s : Stream φ) (c : Chunk) :
    (s.take (ε := ε) q c).2.chunkSize = s.chunkSize := by
  simp only [take]
  by_cases hcomplete : c.complete = true
  · rw [if_pos hcomplete]
    rfl
  · rw [if_neg hcomplete]
    cases (s.add c).total with
    | some t =>
      dsimp only
      split_ifs <;> rfl
    | none =>
      dsimp only
      split_ifs <;> rfl

/-- A call for a chunk does not change the size of the next range. -/
theorem next_chunkSize (q : Quotients φ) (src : ChunkSource σ ε) (s : Stream φ) (w : σ) :
    (s.next q src w).2.1.chunkSize = s.chunkSize := by
  simp only [next]
  split_ifs
  · rfl
  · obtain ⟨e | c, w₁⟩ := src.fetch s.range.1 s.range.2 w
    · rfl
    · exact take_chunkSize q s c

/-- A successful call for a chunk: the stream and the source before it, and what it reported. -/
structure Step (φ σ : Type) where
  stream : Stream φ
  world : σ
  report : Progress φ

/-- The successful calls of a run, in order. -/
def steps (q : Quotients φ) (src : ChunkSource σ ε) (note : Progress φ → σ → σ) :
    (fuel : Nat) → Stream φ → σ → List (Step φ σ)
  | 0, _, _ => []
  | fuel + 1, s, w =>
    if s.done then []
    else
      match s.next q src w with
      | (.error _, _, _) => []
      | (.ok p, s', w') => ⟨s, w, p⟩ :: steps q src note fuel s' (note p w')

/-- The successful calls for all chunks of a document. -/
def allSteps (q : Quotients φ) (src : ChunkSource σ ε) (note : Progress φ → σ → σ)
    (chunkSize : Int) (w : σ) : List (Step φ σ) :=
  steps q src note (src.left w + 2) (start q chunkSize) w

/-- What holds at the start of a run and is kept by every successful call holds when the document
is whole. -/
theorem pull_ok_induction (I : List (Step φ σ) → Stream φ → σ → Prop)
    (hstep : ∀ taken s w p s' w', I taken s w → s.next q src w = (.ok p, s', w') →
      I (taken ++ [⟨s, w, p⟩]) s' (note p w'))
    (fuel : Nat) (taken : List (Step φ σ)) (s : Stream φ) (w : σ) (s' : Stream φ) (w' : σ)
    (hI : I taken s w) (h : pull q src note fuel s w = (.ok (), s', w')) :
    s'.done = true ∧ I (taken ++ steps q src note fuel s w) s' w' := by
  induction fuel generalizing taken s w with
  | zero => simp [pull] at h
  | succ fuel ih =>
    rw [pull] at h
    rw [steps]
    by_cases hd : s.done = true
    · simp only [hd, if_true, Prod.mk.injEq, true_and] at h ⊢
      obtain ⟨rfl, rfl⟩ := h
      exact ⟨hd, by simpa using hI⟩
    · simp only [hd, if_false, Bool.false_eq_true] at h ⊢
      cases hn : s.next q src w with
      | mk r rest =>
        obtain ⟨s₁, w₁⟩ := rest
        cases r with
        | error e => simp [hn] at h
        | ok p =>
          simp only [hn] at h ⊢
          have hh := ih (taken ++ [⟨s, w, p⟩]) s₁ (note p w₁) (hstep _ _ _ _ _ _ hI hn) h
          simpa using hh

/-- Each step of a run is a call for a chunk that succeeded with the step's report. -/
theorem next_steps (fuel : Nat) (s : Stream φ) (w : σ) :
    ∀ step ∈ steps q src note fuel s w,
      (step.stream.next q src step.world).1 = .ok step.report := by
  induction fuel generalizing s w with
  | zero => simp [steps]
  | succ fuel ih =>
    intro step hmem
    rw [steps] at hmem
    split_ifs at hmem
    · simp at hmem
    · split at hmem
      · simp at hmem
      · rename_i p s₁ w₁ hr
        rcases List.mem_cons.mp hmem with rfl | hmem
        · simp only [hr]
        · exact ih s₁ (note p w₁) step hmem

/-- Only the last call of a run can report that the document is whole. -/
theorem final_steps (fuel : Nat) (s : Stream φ) (w : σ) :
    ∀ step ∈ (steps q src note fuel s w).dropLast, step.report.final = false := by
  induction fuel generalizing s w with
  | zero => simp [steps]
  | succ fuel ih =>
    rw [steps]
    split_ifs
    · simp
    · cases hr : s.next q src w with
      | mk r rest =>
        obtain ⟨s₁, w₁⟩ := rest
        cases r with
        | error e => simp
        | ok p =>
          obtain ⟨-, c, -, -, hp⟩ := next_ok hr
          simp only
          by_cases hnil : steps q src note fuel s₁ (note p w₁) = []
          · simp [hnil]
          · rw [List.dropLast_cons_of_ne_nil hnil]
            intro step hmem
            rcases List.mem_cons.mp hmem with rfl | hmem
            · -- A run that goes on has not reported the document as whole.
              rw [hp]
              cases fuel with
              | zero => simp [steps] at hnil
              | succ fuel =>
                by_contra hf
                rw [Bool.not_eq_false] at hf
                exact hnil (by rw [steps, if_pos (show s₁.done = true from hf)])
            · exact ih s₁ (note p w₁) step hmem

end Stream

end DocPull
