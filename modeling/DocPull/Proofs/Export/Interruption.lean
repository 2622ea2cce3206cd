import DocPull.Proofs.Export.Calls

/-!
# Interruptions leave no trace

A script of answers is played to a stream with one call for each answer. Where fetches fail and the
caller simply goes on, the run is the one over the script without the failures: the same chunks are
asked for in the same ranges, they come to the same results, and the stream ends up the same. Only
behind the end of the document a failure is not met any more, and its call says that the stream is
done.
-/
namespace DocPull.Stream

variable {φ σ ε : Type} {q : Quotients φ}

/-- Whether an answer of a source is a chunk. -/
def isChunk : Except ε Chunk → Bool
  | .ok _ => true
  | .error _ => false

/-- Whether a call failed because its fetch did. -/
def isFetchError : Except (StreamError ε) (Progress φ) → Bool
  | .error (.fetch _ _ _) => true
  | _ => false

/-- A script without its failures. -/
def uninterrupted (script : List (Except ε Chunk)) : List (Except ε Chunk) := script.filter isChunk

@[simp] theorem uninterrupted_failure (e : ε) (script : List (Except ε Chunk)) :
    uninterrupted (.error e :: script) = uninterrupted script := rfl

@[simp] theorem uninterrupted_chunk (c : Chunk) (script : List (Except ε Chunk)) :
    uninterrupted (.ok c :: script) = .ok c :: uninterrupted script := rfl

/-- The results of the calls that belong to the chunks of a script. -/
def atChunks (script : List (Except ε Chunk)) (rs : List (Except (StreamError ε) (Progress φ))) :
    List (Except (StreamError ε) (Progress φ)) :=
  ((script.zip rs).filter fun p => isChunk p.1).map Prod.snd

@[simp] theorem atChunks_failure (e : ε) (script : List (Except ε Chunk))
    (r : Except (StreamError ε) (Progress φ)) (rs : List (Except (StreamError ε) (Progress φ))) :
    atChunks (.error e :: script) (r :: rs) = atChunks script rs := rfl

@[simp] theorem atChunks_chunk (c : Chunk) (script : List (Except ε Chunk))
    (r : Except (StreamError ε) (Progress φ)) (rs : List (Except (StreamError ε) (Progress φ))) :
    atChunks (.ok c :: script) (r :: rs) = r :: atChunks script rs := rfl

theorem atChunks_replicate (script : List (Except ε Chunk))
    (r : Except (StreamError ε) (Progress φ)) :
    atChunks script (List.replicate script.length r) =
      List.replicate (uninterrupted script).length r := by
  induction script with
  | nil => rfl
  | cons a script ih => cases a <;> simp [List.replicate_succ, ih]

/-- A chunk that is refused is not a failed fetch. -/
theorem isFetchError_take (q : Quotients φ) (s : Stream φ) (c : Chunk) :
    isFetchError (s.take (ε := ε) q c).1 = false := by
  rcases h : s.take (ε := ε) q c with ⟨e | p, s'⟩
  · obtain ⟨-, -, -, t, -, -, rfl⟩ := take_error h
    rfl
  · rfl

/-- A failed fetch leaves the stream as it was. -/
theorem next_of_isFetchError (q : Quotients φ) (src : ChunkSource σ ε) (s : Stream φ) (w : σ)
    (h : isFetchError (s.next q src w).1 = true) : (s.next q src w).2.1 = s := by
  obtain ⟨new, hcall, -⟩ := next_call q src s w
  generalize (s.next q src w).1 = r, (s.next q src w).2.1 = s' at h hcall ⊢
  cases hcall with
  | finished hd => rfl
  | failed hd e => rfl
  | taken hd c ht =>
    have htake := isFetchError_take (ε := ε) q s c
    rw [ht, h] at htake
    cases htake

section Played

variable {exhausted : ε} {s : Stream φ} {script : List (Except ε Chunk)}

theorem next_failure (hd : s.done = false) (e : ε) :
    s.next q (scripted exhausted) (.error e :: script) =
      (.error (.fetch s.range.1 s.range.2 e), s, script) := by
  simp [next, hd, scripted]

theorem next_chunk (hd : s.done = false) (c : Chunk) :
    s.next q (scripted exhausted) (.ok c :: script) =
      ((s.take q c).1, (s.take (ε := ε) q c).2, script) := by
  simp [next, hd, scripted]

theorem record_failure (hd : s.done = false) (e : ε) (n : Nat) :
    record q (scripted exhausted) (n + 1) s (.error e :: script) =
      s.fetchOf (.error e) :: record q (scripted exhausted) n s script := by
  rw [record_succ [s.fetchOf (.error e)] (by simp [next, recorded, scripted, hd, fetchOf]),
    next_failure hd]
  rfl

theorem record_chunk (hd : s.done = false) (c : Chunk) (n : Nat) :
    record q (scripted exhausted) (n + 1) s (.ok c :: script) =
      s.fetchOf (.ok c) ::
        record q (scripted exhausted) n (s.take (ε := ε) q c).2 script := by
  rw [record_succ [s.fetchOf (.ok c)] (by simp [next, recorded, scripted, hd, fetchOf]),
    next_chunk hd]
  rfl

end Played

/-- How the calls for the answers of a script compare with the calls for its chunks alone: the same
stream in the end, the same results at the chunks and the same fetches of chunks. The calls that did
not fail with a fetch come to the same results in the same order, and then to one more for each
failure that is left unread. -/
structure SameButFailures (q : Quotients φ) (exhausted : ε) (s : Stream φ)
    (script : List (Except ε Chunk)) : Prop where
  stream : (calls q (scripted exhausted) script.length s script).2.1 =
    (calls q (scripted exhausted) (uninterrupted script).length s (uninterrupted script)).2.1
  atChunks : atChunks script (calls q (scripted exhausted) script.length s script).1 =
    (calls q (scripted exhausted) (uninterrupted script).length s (uninterrupted script)).1
  fetches : ((record q (scripted exhausted) script.length s script).filter
      fun f => isChunk f.answer) =
    record q (scripted exhausted) (uninterrupted script).length s (uninterrupted script)
  results : ((calls q (scripted exhausted) script.length s script).1.filter
      fun r => !isFetchError r) =
    (calls q (scripted exhausted) (uninterrupted script).length s (uninterrupted script)).1 ++
      List.replicate ((calls q (scripted exhausted) script.length s script).2.2.filter
        fun a => !isChunk a).length (.error .alreadyComplete)
  left : (calls q (scripted exhausted) script.length s script).2.1.done = false →
    (calls q (scripted exhausted) script.length s script).2.2 = []

/-- A stream that is done meets neither chunks nor failures. -/
theorem sameButFailures_of_done (q : Quotients φ) (exhausted : ε) {s : Stream φ}
    (hd : s.done = true) (script : List (Except ε Chunk)) :
    SameButFailures q exhausted s script where
  stream := by simp only [calls_of_done hd]
  atChunks := by simp only [calls_of_done hd, atChunks_replicate]
  fetches := by simp only [record_of_done hd, List.filter_nil]
  results := by
    have hlength := List.length_eq_length_filter_add (l := script) isChunk
    simp only [calls_of_done hd, List.replicate_append_replicate, uninterrupted, ← hlength]
    exact List.filter_eq_self.mpr fun r hr => by rw [List.eq_of_mem_replicate hr]; rfl
  left := by simp [calls_of_done hd, hd]

/-- The failures of a script make no difference, wherever they stand. -/
theorem sameButFailures (q : Quotients φ) (exhausted : ε) (s : Stream φ)
    (script : List (Except ε Chunk)) : SameButFailures q exhausted s script := by
  induction script generalizing s with
  | nil => exact ⟨rfl, rfl, rfl, rfl, fun _ => rfl⟩
  | cons a script ih =>
    by_cases hd : s.done = true
    · exact sameButFailures_of_done q exhausted hd (a :: script)
    · rw [Bool.not_eq_true] at hd
      cases a with
      | error e =>
        obtain ⟨hstream, hat, hfetches, hresults, hleft⟩ := ih s
        refine ⟨?_, ?_, ?_, ?_, ?_⟩
        · simpa [calls, next_failure hd] using hstream
        · simpa [calls, next_failure hd] using hat
        · simpa [record_failure hd, fetchOf, isChunk] using hfetches
        · simpa [calls, next_failure hd, isFetchError] using hresults
        · simpa [calls, next_failure hd] using hleft
      | ok c =>
        obtain ⟨hstream, hat, hfetches, hresults, hleft⟩ := ih (s.take (ε := ε) q c).2
        refine ⟨?_, ?_, ?_, ?_, ?_⟩
        · simpa [calls, next_chunk hd] using hstream
        · simpa [calls, next_chunk hd] using hat
        · simpa [record_chunk hd, fetchOf, isChunk] using hfetches
        · simpa [calls, next_chunk hd, isFetchError_take] using hresults
        · simpa [calls, next_chunk hd] using hleft

/-- For every chunk size and every script of chunks and failures, with one call for each entry,
against the script without the failures. The calls at chunks come to the same results, the chunks
are asked for in the same ranges, and the stream ends up the same, with the same bytes. All results
that are no failed fetches are the same too, except that each failure left unread behind the end
adds one that says that the stream is done; none is left as long as the stream goes on. For no
source does a failed fetch change the stream. -/
theorem calls_skip_failures (q : Quotients φ) (exhausted : ε) (chunkSize : Int)
    (script : List (Except ε Chunk)) :
    let src := scripted exhausted
    let s := start q chunkSize
    let kept := uninterrupted script
    let ended := calls q src script.length s script
    let plain := calls q src kept.length s kept
    ended.1.filter (fun r => !isFetchError r) =
        plain.1 ++ List.replicate (ended.2.2.filter fun a => !isChunk a).length
          (.error .alreadyComplete) ∧
    (ended.2.1.done = false → ended.2.2 = []) ∧
    atChunks script ended.1 = plain.1 ∧
    ((record q src script.length s script).filter fun f => isChunk f.answer) =
      record q src kept.length s kept ∧
    ended.2.1 = plain.2.1 ∧
    ∀ {σ : Type} (src : ChunkSource σ ε) (s : Stream φ) (w : σ),
      isFetchError (s.next q src w).1 = true → (s.next q src w).2.1 = s := by
  intro src s kept ended plain
  have h := sameButFailures q exhausted s script
  exact ⟨h.results, h.left, h.atChunks, h.fetches, h.stream, next_of_isFetchError q⟩

/-- A document of one short chunk, and a failure behind its end. -/
def lateFailure : List (Except Unit Chunk) := [.ok ⟨"ab", none, false⟩, .error ()]

/-- The failure behind the end is not met, and its call is no failed fetch: without the failure
there is one such result less. -/
theorem lateFailure_adds_result :
    let src := scripted ()
    let s := start Quotients.binary64 10
    let kept := uninterrupted lateFailure
    (calls .binary64 src lateFailure.length s lateFailure).1.filter (fun r => !isFetchError r) ≠
      (calls .binary64 src kept.length s kept).1 := by
  intro src s kept h
  exact absurd (congrArg List.length h) (by decide +kernel)

end DocPull.Stream
