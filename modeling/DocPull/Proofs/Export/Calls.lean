import DocPull.Proofs.Export.Pull
import DocPull.Proofs.Number.Decimal

/-!
# Calls for chunks, whatever they come to

A caller may ask a stream for chunks as often as it likes, also after a call that failed and after
the end. The source is watched meanwhile: every fetch is put on record with what it gave. What the
stream holds is then a function of the record alone, every range starts where the bytes given
before it end, and a stream that is done leaves the source alone.
-/
namespace DocPull.Stream

variable {φ σ ε : Type} {q : Quotients φ} {src : ChunkSource σ ε}

/-- So many calls for a chunk: what each of them came to, and where they lead. -/
def calls (q : Quotients φ) (src : ChunkSource σ ε) :
    Nat → Stream φ → σ → List (Except (StreamError ε) (Progress φ)) × Stream φ × σ
  | 0, s, w => ([], s, w)
  | n + 1, s, w =>
    let (r, s, w) := s.next q src w
    let (rs, s, w) := calls q src n s w
    (r :: rs, s, w)

/-- The reports among the results of calls. -/
def reports (rs : List (Except (StreamError ε) (Progress φ))) : List (Progress φ) :=
  rs.filterMap Except.toOption

@[simp] theorem reports_append (rs new : List (Except (StreamError ε) (Progress φ))) :
    reports (rs ++ new) = reports rs ++ reports new :=
  List.filterMap_append

@[simp] theorem reports_error (e : StreamError ε) :
    reports [(.error e : Except (StreamError ε) (Progress φ))] = [] := rfl

@[simp] theorem reports_ok (p : Progress φ) :
    reports [(.ok p : Except (StreamError ε) (Progress φ))] = [p] := rfl

/-- A source that gives the answers of a script, one after the other, and then fails with the same
error over and over. -/
def scripted (exhausted : ε) : ChunkSource (List (Except ε Chunk)) ε where
  fetch _ _
    | [] => (.error exhausted, [])
    | answer :: script => (answer, script)
  left := List.length

/-- A stream that is done gives nothing more, and asks for nothing more. -/
theorem calls_of_done {s : Stream φ} (hd : s.done = true) (n : Nat) (w : σ) :
    calls q src n s w = (List.replicate n (.error .alreadyComplete), s, w) := by
  induction n with
  | zero => rfl
  | succ n ih => simp [calls, next, hd, ih, List.replicate_succ]

/-- What a source was asked for, and what it gave. -/
structure Fetch (ε : Type) where
  first : Int
  last : Int
  answer : Except ε Chunk

/-- A source whose fetches are put on record, in order. -/
def recorded (src : ChunkSource σ ε) : ChunkSource (σ × List (Fetch ε)) ε where
  fetch first last w :=
    let r := src.fetch first last w.1
    (r.1, r.2, w.2 ++ [⟨first, last, r.1⟩])
  left w := src.left w.1

/-- The fetch for the next range, with what it gave. -/
def fetchOf (s : Stream φ) (answer : Except ε Chunk) : Fetch ε := ⟨s.range.1, s.range.2, answer⟩

/-- Everything a call for a chunk can come to: its result, the stream after it, and the fetches that
it made. -/
inductive Call (q : Quotients φ) (s : Stream φ) :
    Except (StreamError ε) (Progress φ) → Stream φ → List (Fetch ε) → Prop
  | finished (hd : s.done = true) : Call q s (.error .alreadyComplete) s []
  | failed (hd : s.done = false) (e : ε) :
      Call q s (.error (.fetch s.range.1 s.range.2 e)) s [s.fetchOf (.error e)]
  | taken (hd : s.done = false) (c : Chunk) {r : Except (StreamError ε) (Progress φ)}
      {s' : Stream φ} (ht : s.take q c = (r, s')) : Call q s r s' [s.fetchOf (.ok c)]

/-- A call on a stream that goes on makes one fetch, for the next range. -/
theorem Call.fetches {s s' : Stream φ} {r : Except (StreamError ε) (Progress φ)}
    {new : List (Fetch ε)} (h : Call q s r s' new) (hd : s.done = false) :
    ∃ answer, new = [s.fetchOf answer] := by
  cases h with
  | finished hdone =>
    rw [hd] at hdone
    cases hdone
  | failed _ e => exact ⟨.error e, rfl⟩
  | taken _ c _ => exact ⟨.ok c, rfl⟩

theorem next_call (q : Quotients φ) (src : ChunkSource σ ε) (s : Stream φ) (w : σ) :
    ∃ new, Call q s (s.next q src w).1 (s.next q src w).2.1 new ∧ ∀ fs,
      s.next q (recorded src) (w, fs) =
        ((s.next q src w).1, (s.next q src w).2.1, (s.next q src w).2.2, fs ++ new) := by
  simp only [next, recorded]
  split_ifs with hd
  · exact ⟨[], .finished hd, fun fs => by simp⟩
  · rw [Bool.not_eq_true] at hd
    obtain ⟨e | c, w₁⟩ := src.fetch s.range.1 s.range.2 w
    · exact ⟨_, .failed hd e, fun fs => rfl⟩
    · exact ⟨_, .taken hd c rfl, fun fs => rfl⟩

/-- The fetches that so many calls make. -/
def record (q : Quotients φ) (src : ChunkSource σ ε) (n : Nat) (s : Stream φ) (w : σ) :
    List (Fetch ε) :=
  (calls q (recorded src) n s (w, [])).2.2.2

theorem record_of_done {s : Stream φ} (hd : s.done = true) (n : Nat) (w : σ) :
    record q src n s w = [] := by
  rw [record, calls_of_done hd]

/-- Keeping a record changes nothing about the calls. -/
theorem calls_recorded (q : Quotients φ) (src : ChunkSource σ ε) (n : Nat) (s : Stream φ) (w : σ)
    (fs : List (Fetch ε)) :
    calls q (recorded src) n s (w, fs) =
      ((calls q src n s w).1, (calls q src n s w).2.1, (calls q src n s w).2.2,
        fs ++ record q src n s w) := by
  suffices hnew : ∃ new, ∀ fs, calls q (recorded src) n s (w, fs) =
      ((calls q src n s w).1, (calls q src n s w).2.1, (calls q src n s w).2.2, fs ++ new) by
    obtain ⟨new, hnew⟩ := hnew
    rw [record, hnew, hnew, List.nil_append]
  induction n generalizing s w with
  | zero => exact ⟨[], fun fs => by simp [calls]⟩
  | succ n ih =>
    obtain ⟨new, -, hnext⟩ := next_call q src s w
    obtain ⟨more, hmore⟩ := ih (s.next q src w).2.1 (s.next q src w).2.2
    exact ⟨new ++ more, fun fs => by simp [calls, hnext, hmore]⟩

theorem record_succ {s : Stream φ} {w : σ} (new : List (Fetch ε))
    (h : s.next q (recorded src) (w, []) =
      ((s.next q src w).1, (s.next q src w).2.1, (s.next q src w).2.2, new)) (n : Nat) :
    record q src (n + 1) s w =
      new ++ record q src n (s.next q src w).2.1 (s.next q src w).2.2 := by
  rw [record, calls, h]
  simp only [calls_recorded]

theorem record_one (q : Quotients φ) (src : ChunkSource σ ε) {s : Stream φ} (hd : s.done = false)
    (w : σ) : ∃ answer, record q src 1 s w = [s.fetchOf answer] := by
  obtain ⟨new, hcall, hnext⟩ := next_call q src s w
  obtain ⟨answer, rfl⟩ := hcall.fetches hd
  exact ⟨answer, record_succ _ (by simpa using hnext []) 0⟩

/-- What every call keeps, with the fetches that it makes, is kept by any number of calls. -/
theorem calls_keep {I : List (Except (StreamError ε) (Progress φ)) → Stream φ →
      List (Fetch ε) → Prop}
    (hstep : ∀ rs s fs r s' new, I rs s fs → Call q s r s' new → I (rs ++ [r]) s' (fs ++ new))
    (src : ChunkSource σ ε) (n : Nat) {s : Stream φ} (w : σ) (h : I [] s []) :
    I (calls q src n s w).1 (calls q src n s w).2.1 (record q src n s w) := by
  suffices hall : ∀ rs s w fs, I rs s fs →
      I (rs ++ (calls q src n s w).1) (calls q src n s w).2.1 (fs ++ record q src n s w) by
    simpa using hall [] s w [] h
  induction n with
  | zero =>
    intro rs s w fs hI
    simpa [calls, record] using hI
  | succ n ih =>
    intro rs s w fs hI
    obtain ⟨new, hcall, hnext⟩ := next_call q src s w
    have hmore := ih _ _ (s.next q src w).2.2 _ (hstep _ _ _ _ _ _ hI hcall)
    rw [record_succ new (by simpa using hnext [])]
    simpa [calls] using hmore

/-- The chunks that were given. -/
def given (fs : List (Fetch ε)) : List Chunk := fs.filterMap fun f => f.answer.toOption

@[simp] theorem given_append (fs new : List (Fetch ε)) :
    given (fs ++ new) = given fs ++ given new :=
  List.filterMap_append

@[simp] theorem given_failed (s : Stream φ) (e : ε) : given [s.fetchOf (.error e)] = [] := rfl

@[simp] theorem given_taken (s : Stream φ) (c : Chunk) :
    given [s.fetchOf (.ok c : Except ε Chunk)] = [c] := rfl

/-- All bytes that were given, in order. -/
def bytesOf (fs : List (Fetch ε)) : Bytes := (given fs).flatMap Chunk.data

/-- What chunks join to: their data in order, or the data of the last one alone when that one is the
whole document. -/
inductive Joins : List Chunk → Bytes → Prop
  | parts {chunks : List Chunk} (h : ∀ c ∈ chunks, c.complete = false) :
      Joins chunks (chunks.flatMap Chunk.data)
  | whole {before : List Chunk} {c : Chunk} (h : ∀ c ∈ before, c.complete = false)
      (hc : c.complete = true) : Joins (before ++ [c]) c.data

/-- A fetch asks for a range of a size that starts at a position. The last position is computed in
64 bits. -/
def Fetch.Asks (f : Fetch ε) (position : Nat) (size : Int) : Prop :=
  f.first = position ∧ (position + size < 2 ^ 63 → f.last = position + size - 1)

/-- What a stream holds is what the chunks on record join to, and every fetch on record asked for
the range behind the bytes that were given before it. -/
structure Follows (size : Int) (s : Stream φ) (fs : List (Fetch ε)) : Prop where
  chunkSize : s.chunkSize = size
  received : s.received = s.content.length
  joins : Joins (given fs) s.content
  goesOn : s.done = false → ∀ c ∈ given fs, c.complete = false
  ranges : ∀ before f after, fs = before ++ f :: after → f.Asks (bytesOf before).length size

namespace Follows

variable {size : Int} {s : Stream φ} {fs : List (Fetch ε)}

/-- A stream that goes on holds all bytes that were given. -/
theorem content (h : Follows size s fs) (hd : s.done = false) : s.content = bytesOf fs := by
  have hparts := h.goesOn hd
  have hjoins := h.joins
  rw [bytesOf]
  generalize given fs = chunks at hparts hjoins ⊢
  generalize s.content = content at hjoins ⊢
  cases hjoins with
  | parts => rfl
  | whole _ hc =>
    have hwhole := hparts _ (List.mem_append_right _ (List.mem_singleton_self _))
    rw [hc] at hwhole
    cases hwhole

/-- The next range is the one behind what the stream holds. -/
theorem asks (h : Follows size s fs) (hsize : 0 < size) (answer : Except ε Chunk) :
    (s.fetchOf answer).Asks s.content.length size := by
  refine ⟨?_, fun hfits => ?_⟩
  · simp only [fetchOf, range, h.received]
  · simp only [fetchOf, range, h.received, h.chunkSize]
    exact Numeral.wrap_eq_self ⟨by omega, by omega⟩

/-- One more fetch for the next range keeps all ranges in their places. -/
theorem ranges_concat (h : Follows size s fs) (hsize : 0 < size) (hd : s.done = false)
    (answer : Except ε Chunk) (before : List (Fetch ε)) (f : Fetch ε) (after : List (Fetch ε))
    (hsplit : fs ++ [s.fetchOf answer] = before ++ f :: after) :
    f.Asks (bytesOf before).length size := by
  rcases List.eq_nil_or_concat after with rfl | ⟨after, last, rfl⟩
  · obtain ⟨rfl, hf⟩ := List.append_inj' hsplit rfl
    obtain rfl : s.fetchOf answer = f := by simpa using hf
    rw [← h.content hd]
    exact h.asks hsize answer
  · rw [List.concat_eq_append, ← List.cons_append, ← List.append_assoc] at hsplit
    exact h.ranges before f after (List.append_inj' hsplit rfl).1

/-- A range starts as far behind the one before it as bytes were given in between. -/
theorem advance (h : Follows size s fs) {before after : List (Fetch ε)} {f f' : Fetch ε}
    (hsplit : fs = before ++ f :: f' :: after) :
    f'.first = f.first + (bytesOf [f]).length := by
  have hfirst := (h.ranges before f (f' :: after) hsplit).1
  have hnext := (h.ranges (before ++ [f]) f' after (by simpa using hsplit)).1
  rw [hfirst, hnext]
  simp [bytesOf]

/-- Every call keeps a stream in step with the record. -/
theorem call (h : Follows size s fs) (hsize : 0 < size)
    {r : Except (StreamError ε) (Progress φ)} {s' : Stream φ} {new : List (Fetch ε)}
    (hcall : Call q s r s' new) : Follows size s' (fs ++ new) := by
  cases hcall with
  | finished hd => simpa using h
  | failed hd e =>
    refine ⟨h.chunkSize, h.received, ?_, ?_, h.ranges_concat hsize hd _⟩
    · simpa using h.joins
    · simpa using h.goesOn
  | taken hd c ht =>
    have hranges := h.ranges_concat hsize hd (.ok c)
    have hchunkSize : s'.chunkSize = size := by
      rw [← h.chunkSize, ← take_chunkSize (ε := ε) q s c, ht]
    have hparts := h.goesOn hd
    have hcontent := h.content hd
    -- A part is added to the parts before it.
    have hadd : c.complete = false →
        Joins (given (fs ++ [s.fetchOf (.ok c)])) (s.content ++ c.data) ∧
        ∀ c' ∈ given (fs ++ [s.fetchOf (.ok c)]), c'.complete = false := by
      intro hc
      have hall : ∀ c' ∈ given fs ++ [c], c'.complete = false := by
        simpa [or_imp, forall_and] using ⟨hparts, hc⟩
      rw [given_append, given_taken, hcontent, bytesOf]
      exact ⟨by simpa using Joins.parts hall, hall⟩
    cases r with
    | error e =>
      obtain ⟨hc, -, rfl, -⟩ := take_error ht
      obtain ⟨hjoins, hall⟩ := hadd hc
      exact ⟨hchunkSize, by simp [add, h.received], hjoins, fun _ => hall, hranges⟩
    | ok p =>
      cases (take_ok ht).1 with
      | whole f hc =>
        refine ⟨hchunkSize, rfl, ?_, by simp, hranges⟩
        rw [given_append, given_taken]
        exact .whole hparts hc
      | last f hc _ =>
        exact ⟨hchunkSize, by simp [h.received], (hadd hc).1, by simp, hranges⟩
      | more f hc _ =>
        exact ⟨hchunkSize, by simp [h.received], (hadd hc).1, fun _ => (hadd hc).2, hranges⟩

end Follows

/-- The size of the ranges that a stream asks for: the given one, or the default for one that is not
positive. -/
def rangeSize (chunkSize : Int) : Int := if chunkSize ≤ 0 then defaultChunkSize else chunkSize

theorem rangeSize_pos (chunkSize : Int) : 0 < rangeSize chunkSize := by
  rw [rangeSize]
  split_ifs
  · decide
  · omega

theorem follows_start (q : Quotients φ) (chunkSize : Int) :
    Follows (ε := ε) (rangeSize chunkSize) (start q chunkSize) [] where
  chunkSize := rfl
  received := rfl
  joins := .parts (by simp [given])
  goesOn := by simp [given]
  ranges := by simp

/-- Any number of calls leaves a stream in step with the record of its fetches. -/
theorem follows_calls (q : Quotients φ) (src : ChunkSource σ ε) (chunkSize : Int) (n : Nat)
    (w : σ) :
    Follows (rangeSize chunkSize) (calls q src n (start q chunkSize) w).2.1
      (record q src n (start q chunkSize) w) :=
  calls_keep (I := fun _ s fs => Follows (rangeSize chunkSize) s fs)
    (fun _ _ _ _ _ _ h hcall => h.call (rangeSize_pos chunkSize) hcall) src n w
    (follows_start q chunkSize)

/-- For every source, chunk size and number of calls, whatever these come to. The stream has counted
the bytes it holds, and holds what the chunks given so far join to. Every fetch asked for a range of
the stream's size that starts behind all bytes given before, so that the ranges advance with the
bytes that are given, and the next call asks for the range behind what is held now. Once the stream
is done, all further calls say so, leave it as it is and do not ask the source. -/
theorem calls_assemble (q : Quotients φ) (src : ChunkSource σ ε) (chunkSize : Int) (n : Nat)
    (w : σ) :
    let ended := calls q src n (start q chunkSize) w
    let s := ended.2.1
    let fs := record q src n (start q chunkSize) w
    let size := rangeSize chunkSize
    s.received = s.content.length ∧
    Joins (given fs) s.content ∧
    (∀ before f after, fs = before ++ f :: after → f.Asks (bytesOf before).length size) ∧
    (∀ before f f' after, fs = before ++ f :: f' :: after →
      f'.first = f.first + (bytesOf [f]).length) ∧
    (s.done = false → s.content = bytesOf fs ∧
      ∃ f : Fetch ε, f.Asks s.content.length size ∧ record q src 1 s ended.2.2 = [f]) ∧
    (s.done = true → ∀ k, calls q src k s ended.2.2 =
      (List.replicate k (.error .alreadyComplete), s, ended.2.2) ∧
        record q src k s ended.2.2 = []) := by
  intro ended s fs size
  have h : Follows size s fs := follows_calls q src chunkSize n w
  refine ⟨h.received, h.joins, h.ranges, fun _ _ _ _ hsplit => h.advance hsplit,
    fun hd => ⟨h.content hd, ?_⟩, fun hd k => ?_⟩
  · obtain ⟨answer, hrecord⟩ := record_one q src hd ended.2.2
    exact ⟨_, h.asks (rangeSize_pos chunkSize) answer, hrecord⟩
  · exact ⟨calls_of_done hd k ended.2.2, record_of_done hd k ended.2.2⟩

end DocPull.Stream
