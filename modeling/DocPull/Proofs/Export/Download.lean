import DocPull.Export.Download
import DocPull.Proofs.Export.Pull
import DocPull.Proofs.Files.AtomicWrite

/-!
# Downloads write everything or nothing

A run is watched from outside: beside the source's own state there are the file tree, which no
source can reach, and the list of the reports that were handed to the callback. A download that
fails leaves every file as it was, and the tree untouched when not even the document could be
pulled. One that succeeds has put the assembled bytes where its target leads to.
-/
open DocPull.Files.Tree

namespace DocPull.Download

open Files

variable {φ σ ε : Type}

/-- A run seen from outside. -/
structure Scene (φ σ : Type) where
  source : σ
  tree : Files.Tree
  /-- What the callback was called with, in order. -/
  calls : List (Progress φ)

instance : HasTree (Scene φ σ) := ⟨Scene.tree, fun t w => { w with tree := t }⟩

/-- A source that is asked within a scene; it sees nothing but its own state. -/
def watched (src : ChunkSource σ ε) : ChunkSource (Scene φ σ) ε where
  fetch first last w :=
    let r := src.fetch first last w.source
    (r.1, { w with source := r.2 })
  left w := src.left w.source

/-- A callback whose calls are written down. -/
def recording (note : Progress φ → σ → σ) (p : Progress φ) (w : Scene φ σ) : Scene φ σ :=
  { w with source := note p w.source, calls := w.calls ++ [p] }

theorem next_watched (q : Quotients φ) (src : ChunkSource σ ε) (s : Stream φ) (w : Scene φ σ) :
    s.next q (watched src) w =
      ((s.next q src w.source).1, (s.next q src w.source).2.1,
        { w with source := (s.next q src w.source).2.2 }) := by
  simp only [Stream.next, watched]
  split_ifs
  · rfl
  · cases src.fetch s.range.1 s.range.2 w.source with
    | mk r w₁ => cases r <;> rfl

/-- Watching a run changes nothing about it; the tree stays, and every successful call for a chunk
adds one call of the callback. -/
theorem pull_watched (q : Quotients φ) (src : ChunkSource σ ε) (note : Progress φ → σ → σ)
    (fuel : Nat) (s : Stream φ) (w : Scene φ σ) :
    Stream.pull q (watched src) (recording note) fuel s w =
      ((Stream.pull q src note fuel s w.source).1, (Stream.pull q src note fuel s w.source).2.1,
        ⟨(Stream.pull q src note fuel s w.source).2.2, w.tree,
          w.calls ++ (Stream.steps q src note fuel s w.source).map Stream.Step.report⟩) := by
  induction fuel generalizing s w with
  | zero => simp [Stream.pull, Stream.steps]
  | succ fuel ih =>
    rw [Stream.pull, Stream.pull, Stream.steps]
    split_ifs with hd
    · simp
    · rw [next_watched]
      cases hn : s.next q src w.source with
      | mk r rest =>
        obtain ⟨s₁, w₁⟩ := rest
        cases r with
        | error e => simp
        | ok p =>
          simp only [ih]
          simp [recording]

theorem pullAll_watched (q : Quotients φ) (src : ChunkSource σ ε) (note : Progress φ → σ → σ)
    (chunkSize : Int) (w : σ) (t : Files.Tree) :
    Stream.pullAll q (watched src) (recording note) chunkSize ⟨w, t, []⟩ =
      ((Stream.pullAll q src note chunkSize w).1, (Stream.pullAll q src note chunkSize w).2.1,
        ⟨(Stream.pullAll q src note chunkSize w).2.2, t,
          (Stream.allSteps q src note chunkSize w).map Stream.Step.report⟩) := by
  rw [Stream.pullAll, pull_watched]
  simp [Stream.pullAll, Stream.allSteps, watched]

/-- A download that succeeded has pulled the document and written it. -/
theorem run_ok [HasTree σ] {q : Quotients φ} {src : ChunkSource σ ε} {note : Progress φ → σ → σ}
    {digits : Nat → Bytes} {dest : Bytes} {chunkSize : Int} {w w' : σ} {r : Result}
    (h : run q src note digits dest chunkSize w = (.ok r, w')) :
    ∃ s w₁ u l, Stream.pullAll q src note chunkSize w = (.ok (), s, w₁) ∧
      r = ⟨dest, s.content.length⟩ ∧ w' = HasTree.setTree u w₁ ∧ u.locate dest = .ok l ∧
      Replaces (HasTree.tree w₁) u l (.file fileMode s.content) := by
  simp only [run] at h
  split at h
  · simp at h
  · rename_i x s₁ w₁ hp
    split at h
    · simp at h
    · rename_i y hw
      simp only [Prod.mk.injEq, Except.ok.injEq] at h
      obtain ⟨l, hl, hr⟩ := writeFile_ok hw
      exact ⟨s₁, w₁, _, l, hp, h.1.symm, h.2.symm, hl, hr⟩

/-- Everything a watched download can come to: the stream fails, the write fails, or neither. -/
theorem run_watched_cases (q : Quotients φ) (src : ChunkSource σ ε) (note : Progress φ → σ → σ)
    (digits : Nat → Bytes) (t : Files.Tree) (dest : Bytes) (chunkSize : Int) (w : σ) :
    let ended := run q (watched src) (recording note) digits dest chunkSize ⟨w, t, []⟩
    ended.2.calls = (Stream.allSteps q src note chunkSize w).map Stream.Step.report ∧
    ((∃ e, ended.1 = .error (.stream e) ∧ ended.2.tree = t) ∨
      (∃ e, ended.1 = .error (.write dest e) ∧ AddsDirs t ended.2.tree) ∨
      ∃ s w₁ l, Stream.pullAll q src note chunkSize w = (.ok (), s, w₁) ∧
        ended.1 = .ok ⟨dest, s.content.length⟩ ∧ ended.2.tree.locate dest = .ok l ∧
        Replaces t ended.2.tree l (.file fileMode s.content)) := by
  simp only [run, pullAll_watched]
  cases hp : Stream.pullAll q src note chunkSize w with
  | mk r rest =>
    obtain ⟨s, w₁⟩ := rest
    cases r with
    | error e => exact ⟨rfl, .inl ⟨e, rfl, rfl⟩⟩
    | ok x =>
      cases hw : (writeFile t dest s.content fileMode dirMode digits).result with
      | error e =>
        simp only [HasTree.tree, hw]
        exact ⟨rfl, .inr (.inl ⟨e, rfl, writeFile_error hw⟩)⟩
      | ok y =>
        simp only [HasTree.tree, hw]
        obtain ⟨l, hl, hr⟩ := writeFile_ok hw
        exact ⟨rfl, .inr (.inr ⟨s, w₁, l, rfl, rfl, hl, hr⟩)⟩

/-- For every source, callback, tree and target. A failed download leaves every file as it was, and
a failure of the stream the whole tree. A successful one leaves the assembled bytes at the target in
a file of mode 0644, reports their number, and elsewhere adds nothing but directories. The callback
is called once for every successful call for a chunk, in order, and only its last call can be
final. -/
theorem download_all_or_nothing (q : Quotients φ) (src : ChunkSource σ ε)
    (note : Progress φ → σ → σ) (digits : Nat → Bytes) (t : Files.Tree) (dest : Bytes)
    (chunkSize : Int) (w : σ) :
    let ended := run q (watched src) (recording note) digits dest chunkSize ⟨w, t, []⟩
    let content := (Stream.pullAll q src note chunkSize w).2.1.content
    let steps := Stream.allSteps q src note chunkSize w
    (∀ e, ended.1 = .error e → SameFiles t ended.2.tree) ∧
    (∀ e, ended.1 = .error (.stream e) → ended.2.tree = t) ∧
    (∀ r, ended.1 = .ok r → r = ⟨dest, content.length⟩ ∧
      ∃ l, ended.2.tree.locate dest = .ok l ∧
        Replaces t ended.2.tree l (.file 0o644 content)) ∧
    ended.2.calls = steps.map Stream.Step.report ∧
    (∀ step ∈ steps, (step.stream.next q src step.world).1 = .ok step.report) ∧
    ∀ p ∈ ended.2.calls.dropLast, p.final = false := by
  intro ended content steps
  obtain ⟨hcalls, hcases⟩ := run_watched_cases q src note digits t dest chunkSize w
  change ended.2.calls = _ at hcalls
  change (∃ e, ended.1 = .error (.stream e) ∧ ended.2.tree = t) ∨
    (∃ e, ended.1 = .error (.write dest e) ∧ AddsDirs t ended.2.tree) ∨ _ at hcases
  refine ⟨?_, ?_, ?_, hcalls, ?_, ?_⟩
  · intro e he
    obtain ⟨_, _, ht⟩ | ⟨_, _, ht⟩ | ⟨s, w₁, l, _, hok, _⟩ := hcases
    · rw [ht]
      exact (AddsDirs.refl t).sameFiles
    · exact ht.sameFiles
    · rw [he] at hok
      cases hok
  · intro e he
    obtain ⟨_, _, ht⟩ | ⟨_, hw, _⟩ | ⟨s, w₁, l, _, hok, _⟩ := hcases
    · exact ht
    · rw [he] at hw
      cases hw
    · rw [he] at hok
      cases hok
  · intro r hr
    obtain ⟨_, hs, _⟩ | ⟨_, hw, _⟩ | ⟨s, w₁, l, hp, hok, hl, hrep⟩ := hcases
    · rw [hr] at hs
      cases hs
    · rw [hr] at hw
      cases hw
    · have hcontent : content = s.content := by simp only [content, hp]
      rw [hr, Except.ok.injEq] at hok
      rw [hcontent]
      exact ⟨hok, l, hl, hrep⟩
  · exact Stream.next_steps _ _ _
  · rw [hcalls, ← List.map_dropLast]
    intro p hp
    obtain ⟨step, hstep, rfl⟩ := List.mem_map.mp hp
    exact Stream.final_steps _ _ _ step hstep

end DocPull.Download
