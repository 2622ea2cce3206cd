import DocPull.Proofs.Export.Calls
import DocPull.Proofs.Export.Download

/-!
# Downloads come to an end

The loop of a download counts nothing. It goes on only after a chunk that brought at least one byte,
so it stops once a source has no more bytes to give; and where every part states a total it goes on
only below this total. Its rounds are followed here one by one, so that a loop that has stopped can
be told from one that is not given another round.
-/
namespace DocPull

namespace Stream

variable {φ σ ε : Type} {q : Quotients φ} {src : ChunkSource σ ε} {note : Progress φ → σ → σ}

/-- What the loop of a download comes to. -/
abbrev Ended (φ σ ε : Type) := Except (StreamError ε) Unit × Stream φ × σ

/-- The first rounds of the loop of a download: the fetches that they make, and what the loop comes
to when it needs no further round. -/
def rounds (q : Quotients φ) (src : ChunkSource σ ε) (note : Progress φ → σ → σ) :
    Nat → Stream φ → σ → List (Fetch ε) × Option (Ended φ σ ε)
  | 0, s, w => ([], if s.done then some (.ok (), s, w) else none)
  | n + 1, s, w =>
    if s.done then ([], some (.ok (), s, w))
    else
      match s.next q (recorded src) (w, []) with
      | (.error e, s, w, fs) => (fs, some (.error e, s, w))
      | (.ok p, s, w, fs) =>
        let (more, ended) := rounds q src note n s (note p w)
        (fs ++ more, ended)

/-- A chunk that lets a stream go on brings at least one byte, and adds it to what is held. -/
theorem Takes.grows {s s' : Stream φ} {c : Chunk} (h : s.Takes c s') (hd : s'.done = false)
    (hsize : 0 < s.chunkSize) :
    c.complete = false ∧ c.data ≠ [] ∧ s'.content = s.content ++ c.data ∧
      s'.received = s.received + c.data.length := by
  cases h with
  | whole f hc => cases hd
  | last f hc he => cases hd
  | more f hc hmore =>
    refine ⟨hc, ?_, rfl, rfl⟩
    rintro hnil
    rw [GoesOn] at hmore
    cases ht : s.totalAfter c with
    | some t =>
      simp only [ht, hnil] at hmore
      exact hmore.2 rfl
    | none =>
      simp only [ht, hnil, List.length_nil] at hmore
      omega

theorem Takes.chunkSize_eq {s s' : Stream φ} {c : Chunk} (h : s.Takes c s') :
    s'.chunkSize = s.chunkSize := by
  cases h <;> rfl

/-- A chunk that states a total lets a stream go on only below it. -/
theorem Takes.received_lt {s s' : Stream φ} {c : Chunk} {t : Nat} (h : s.Takes c s')
    (hd : s'.done = false) (ht : c.total = some t) : s'.received < t := by
  cases h with
  | whole f hc => cases hd
  | last f hc he => cases hd
  | more f hc hmore =>
    have htotal : s.totalAfter c = some t := by rw [totalAfter, ht, Option.some_or]
    simp only [GoesOn, htotal] at hmore
    exact hmore.1

/-- Everything that one round of the loop can be: it stops the loop after one fetch, or takes a
chunk in and leaves the rest to further rounds. -/
inductive Round (q : Quotients φ) (src : ChunkSource σ ε) (note : Progress φ → σ → σ) (s : Stream φ)
    (w : σ) : Prop
  | stops (f : Fetch ε) (ended : Ended φ σ ε)
      (hrounds : ∀ n, rounds q src note (n + 1) s w = ([f], some ended))
      (hpull : ∀ n, pull q src note (n + 1) s w = ended)
  | goesOn (c : Chunk) (s' : Stream φ) (w' : σ) (htakes : s.Takes c s')
      (hrounds : ∀ n, rounds q src note (n + 1) s w =
        (s.fetchOf (.ok c) :: (rounds q src note n s' w').1, (rounds q src note n s' w').2))
      (hpull : ∀ n, pull q src note (n + 1) s w = pull q src note n s' w')

theorem round (q : Quotients φ) (src : ChunkSource σ ε) (note : Progress φ → σ → σ) {s : Stream φ}
    (hd : s.done = false) (w : σ) : Round q src note s w := by
  obtain ⟨new, hcall, hnext⟩ := next_call q src s w
  obtain ⟨r, s', w', hr⟩ : ∃ r s' w', s.next q src w = (r, s', w') := ⟨_, _, _, rfl⟩
  simp only [hr] at hcall hnext
  have hrecorded := hnext []
  cases hcall with
  | finished hdone =>
    rw [hd] at hdone
    cases hdone
  | failed _ e =>
    exact .stops (s.fetchOf (.error e)) (.error (.fetch s.range.1 s.range.2 e), s, w')
      (by simp [rounds, hd, hrecorded]) (by simp [pull, hd, hr])
  | taken _ c ht =>
    cases r with
    | error e =>
      exact .stops (s.fetchOf (.ok c)) (.error e, s', w') (by simp [rounds, hd, hrecorded])
        (by simp [pull, hd, hr])
    | ok p =>
      exact .goesOn c s' (note p w') (take_ok ht).1 (by simp [rounds, hd, hrecorded])
        (by simp [pull, hd, hr])

theorem rounds_of_done {s : Stream φ} (hd : s.done = true) (n : Nat) (w : σ) :
    rounds q src note n s w = ([], some (.ok (), s, w)) := by
  cases n <;> simp [rounds, hd]

/-- A round that is reported on leaves the rest to further rounds. -/
theorem rounds_of_next {s s' : Stream φ} {w w' : σ} {p : Progress φ}
    (h : s.next q src w = (.ok p, s', w')) (n : Nat) :
    (rounds q src note (n + 1) s w).2 = (rounds q src note n s' (note p w')).2 := by
  obtain ⟨new, -, hnext⟩ := next_call q src s w
  have hrecorded := hnext []
  rw [h] at hrecorded
  simp [rounds, (next_ok h).1, hrecorded]

/-- A round makes one fetch. -/
theorem length_rounds_le (n : Nat) (s : Stream φ) (w : σ) :
    (rounds q src note n s w).1.length ≤ n := by
  induction n generalizing s w with
  | zero => exact le_rfl
  | succ n ih =>
    by_cases hd : s.done = true
    · simp [rounds_of_done hd]
    · rcases round q src note (by simpa using hd) w with ⟨f, ended, h, -⟩ | ⟨c, s', w', -, h, -⟩
      · simp [h]
      · rw [h]
        exact Nat.succ_le_succ (ih s' w')

/-- A loop that has stopped is the same for any larger number of rounds. -/
theorem rounds_of_ended {n m : Nat} (hle : n ≤ m) {s : Stream φ} {w : σ} {ended : Ended φ σ ε}
    (h : (rounds q src note n s w).2 = some ended) :
    rounds q src note m s w = rounds q src note n s w := by
  induction n generalizing m s w with
  | zero =>
    have hd : s.done = true := by
      by_contra hd
      simp [rounds, hd] at h
    rw [rounds_of_done hd, rounds_of_done hd]
  | succ n ih =>
    by_cases hd : s.done = true
    · rw [rounds_of_done hd, rounds_of_done hd]
    · obtain ⟨m, rfl⟩ : ∃ k, m = k + 1 := ⟨m - 1, by omega⟩
      rcases round q src note (by simpa using hd) w with ⟨f, e, hr, -⟩ | ⟨c, s', w', -, hr, -⟩
      · rw [hr, hr]
      · rw [hr] at h
        rw [hr, hr, ih (by omega) h]

/-- A loop that stops within some rounds comes to the same when it is given more than those. -/
theorem pull_of_ended {n m : Nat} (hlt : n < m) {s : Stream φ} {w : σ} {ended : Ended φ σ ε}
    (h : (rounds q src note n s w).2 = some ended) : pull q src note m s w = ended := by
  induction n generalizing m s w with
  | zero =>
    obtain ⟨m, rfl⟩ : ∃ k, m = k + 1 := ⟨m - 1, by omega⟩
    by_cases hd : s.done = true
    · simp only [rounds, hd, if_true, Option.some.injEq] at h
      rw [pull, if_pos hd, h]
    · simp [rounds, hd] at h
  | succ n ih =>
    obtain ⟨m, rfl⟩ : ∃ k, m = k + 1 := ⟨m - 1, by omega⟩
    by_cases hd : s.done = true
    · simp only [rounds_of_done hd, Option.some.injEq] at h
      rw [pull, if_pos hd, h]
    · rcases round q src note (by simpa using hd) w with ⟨f, e, hr, hp⟩ | ⟨c, s', w', -, hr, hp⟩
      · rw [hr, Option.some.injEq] at h
        rw [hp, h]
      · rw [hr] at h
        rw [hp]
        exact ih (by omega) h

@[simp] theorem given_cons_ok (s : Stream φ) (c : Chunk) (fs : List (Fetch ε)) :
    given (s.fetchOf (.ok c) :: fs) = c :: given fs := rfl

/-- Rounds that do not stop the loop begin with a chunk after which the stream goes on. -/
theorem rounds_succ_eq_none {n : Nat} {s : Stream φ} {w : σ}
    (h : (rounds q src note (n + 1) s w).2 = none) :
    ∃ c s' w', s.Takes c s' ∧ s'.done = false ∧ (rounds q src note n s' w').2 = none ∧
      (rounds q src note (n + 1) s w).1 = s.fetchOf (.ok c) :: (rounds q src note n s' w').1 := by
  by_cases hd : s.done = true
  · simp [rounds_of_done hd] at h
  · rcases round q src note (by simpa using hd) w with ⟨f, e, hr, -⟩ | ⟨c, s', w', htakes, hr, -⟩
    · simp [hr] at h
    · rw [hr] at h ⊢
      refine ⟨c, s', w', htakes, ?_, h, rfl⟩
      by_contra hd'
      simp [rounds_of_done (by simpa using hd')] at h

/-- Rounds that do not stop the loop bring a byte each. -/
theorem le_bytes_of_rounds {n : Nat} {s : Stream φ} {w : σ} (hsize : 0 < s.chunkSize)
    (h : (rounds q src note n s w).2 = none) :
    n ≤ (bytesOf (rounds q src note n s w).1).length := by
  induction n generalizing s w with
  | zero => exact Nat.zero_le _
  | succ n ih =>
    obtain ⟨c, s', w', htakes, hd, hrest, hr⟩ := rounds_succ_eq_none h
    have hbytes := ih (htakes.chunkSize_eq ▸ hsize) hrest
    have hdata := List.length_pos_iff.mpr (htakes.grows hd hsize).2.1
    simp only [hr, bytesOf, given_cons_ok, List.flatMap_cons, List.length_append] at hbytes ⊢
    omega

/-- Rounds that do not stop the loop stay below the totals that their parts state. -/
theorem lt_total_of_rounds {T n : Nat} {s : Stream φ} {w : σ} (hsize : 0 < s.chunkSize)
    (h : (rounds q src note (n + 1) s w).2 = none)
    (htotal : ∀ c ∈ given (rounds q src note (n + 1) s w).1, c.complete = false →
      ∃ t ≤ T, c.total = some t) : s.received + (n + 1) < T := by
  induction n generalizing s w with
  | zero =>
    obtain ⟨c, s', w', htakes, hd, -, hr⟩ := rounds_succ_eq_none h
    obtain ⟨hpart, hdata, -, hreceived⟩ := htakes.grows hd hsize
    rw [hr, given_cons_ok] at htotal
    obtain ⟨t, ht, hstated⟩ := htotal c List.mem_cons_self hpart
    have hbelow := htakes.received_lt hd hstated
    have hpos := List.length_pos_iff.mpr hdata
    omega
  | succ n ih =>
    obtain ⟨c, s', w', htakes, hd, hrest, hr⟩ := rounds_succ_eq_none h
    obtain ⟨-, hdata, -, hreceived⟩ := htakes.grows hd hsize
    rw [hr, given_cons_ok] at htotal
    have hbelow := ih (htakes.chunkSize_eq ▸ hsize) hrest fun c' hc' =>
      htotal c' (List.mem_cons_of_mem c hc')
    have hpos := List.length_pos_iff.mpr hdata
    omega

/-- How many chunks a source counts as left has no part in what the loop does. -/
theorem pull_left (left : σ → Nat) (n : Nat) (s : Stream φ) (w : σ) :
    pull q { src with left := left } note n s w = pull q src note n s w := by
  induction n generalizing s w with
  | zero => rfl
  | succ n ih =>
    have hnext : s.next q { src with left := left } w = s.next q src w := rfl
    rw [pull, pull, hnext]
    simp only [ih]

/-- A call that is reported on and is not the last one adds at least one byte. -/
theorem next_grows {s s' : Stream φ} {w w' : σ} {p : Progress φ} (hsize : 0 < s.chunkSize)
    (h : s.next q src w = (.ok p, s', w')) (hp : p.final = false) :
    ∃ data ≠ [], s'.content = s.content ++ data ∧ s'.received = s.received + data.length := by
  obtain ⟨-, c, -, htakes, rfl⟩ := next_ok h
  obtain ⟨-, hdata, hcontent, hreceived⟩ := htakes.grows hp hsize
  exact ⟨c.data, hdata, hcontent, hreceived⟩

end Stream

namespace Download

open Files

variable {φ σ ε : Type} [HasTree σ]

/-- What a download makes of what its loop comes to: a failure ends it, and a whole document is
written. -/
def finish (digits : Nat → Bytes) (path : Bytes) :
    Stream.Ended φ σ ε → Except (Error ε) Result × σ
  | (.error e, _, w) => (.error (.stream e), w)
  | (.ok _, s, w) =>
    let t := HasTree.tree w
    let written := writeFile t path s.content fileMode dirMode digits
    let w := HasTree.setTree (written.final t) w
    match written.result with
    | .error e => (.error (.write path e), w)
    | .ok _ => (.ok ⟨path, s.content.length⟩, w)

theorem run_eq_finish (q : Quotients φ) (src : ChunkSource σ ε) (note : Progress φ → σ → σ)
    (digits : Nat → Bytes) (path : Bytes) (chunkSize : Int) (w : σ) :
    run q src note digits path chunkSize w =
      finish digits path (Stream.pullAll q src note chunkSize w) := by
  rw [run]
  rcases Stream.pullAll q src note chunkSize w with ⟨e | x, s, w'⟩ <;> rfl

/-- The fetches that a download makes in the first rounds of its loop. -/
def fetches (q : Quotients φ) (src : ChunkSource σ ε) (note : Progress φ → σ → σ) (chunkSize : Int)
    (w : σ) (n : Nat) : List (Stream.Fetch ε) :=
  (Stream.rounds q src note n (Stream.start q chunkSize) w).1

/-- A download that stops by itself, after at most so many fetches. More rounds change nothing, and
the download ends with what its loop came to, for every number of chunks that its source may count
as left, if it only allows for so many fetches. -/
structure StopsWithin (q : Quotients φ) (src : ChunkSource σ ε) (note : Progress φ → σ → σ)
    (digits : Nat → Bytes) (dest : Bytes) (chunkSize : Int) (w : σ) (limit : Nat) : Prop where
  few : ∀ n, (fetches q src note chunkSize w n).length ≤ limit
  ends : ∃ ended, (∀ n ≥ limit, Stream.rounds q src note n (Stream.start q chunkSize) w =
      (fetches q src note chunkSize w limit, some ended)) ∧
    ∀ left : σ → Nat, limit ≤ left w + 1 →
      run q { src with left := left } note digits dest chunkSize w = finish digits dest ended

section

variable {q : Quotients φ} {src : ChunkSource σ ε} {note : Progress φ → σ → σ}
  {digits : Nat → Bytes} {dest : Bytes} {chunkSize : Int} {w : σ}

/-- A download whose loop has stopped ends with what the loop came to. -/
theorem run_of_ended {limit : Nat} {ended : Stream.Ended φ σ ε}
    (h : (Stream.rounds q src note limit (Stream.start q chunkSize) w).2 = some ended)
    {left : σ → Nat} (hleft : limit ≤ left w + 1) :
    run q { src with left := left } note digits dest chunkSize w = finish digits dest ended := by
  rw [run_eq_finish, Stream.pullAll, Stream.pull_left, Stream.pull_of_ended (by dsimp; omega) h]

theorem StopsWithin.of_ended {limit : Nat} {ended : Stream.Ended φ σ ε}
    (h : (Stream.rounds q src note limit (Stream.start q chunkSize) w).2 = some ended) :
    StopsWithin q src note digits dest chunkSize w limit where
  few n := by
    rcases Nat.le_total n limit with hle | hle
    · exact (Stream.length_rounds_le n _ w).trans hle
    · rw [fetches, Stream.rounds_of_ended hle h]
      exact Stream.length_rounds_le limit _ w
  ends := by
    refine ⟨ended, fun n hn => ?_, fun left hleft => run_of_ended h hleft⟩
    rw [Stream.rounds_of_ended hn h, fetches, ← h]

end

/-- For every source, chunk size, callback and target. On a stream of the selected size every call
for a chunk that is reported on and is not the last one adds at least one byte. Hence a download
whose source gives no more than `B` bytes, in however many rounds, stops after at most `B + 1`
fetches; and one whose source states a total of at most `T` with every chunk that is not the whole
document stops after at most `T` fetches, or after one. -/
theorem download_stops (q : Quotients φ) (src : ChunkSource σ ε) (note : Progress φ → σ → σ)
    (digits : Nat → Bytes) (dest : Bytes) (chunkSize : Int) (w : σ) :
    (∀ s : Stream φ, s.chunkSize = Stream.rangeSize chunkSize → ∀ w₁ p s' w',
      s.next q src w₁ = (.ok p, s', w') → p.final = false →
        ∃ data ≠ [], s'.content = s.content ++ data ∧ s'.received = s.received + data.length) ∧
    (∀ B, (∀ n, (Stream.bytesOf (fetches q src note chunkSize w n)).length ≤ B) →
      StopsWithin q src note digits dest chunkSize w (B + 1)) ∧
    ∀ T, (∀ n, ∀ c ∈ Stream.given (fetches q src note chunkSize w n), c.complete = false →
        ∃ t ≤ T, c.total = some t) →
      StopsWithin q src note digits dest chunkSize w (max 1 T) := by
  have hsize : 0 < (Stream.start q chunkSize).chunkSize := Stream.rangeSize_pos chunkSize
  refine ⟨?_, fun B hB => ?_, fun T hT => ?_⟩
  · intro s hs w₁ p s' w' hnext hp
    exact Stream.next_grows (hs ▸ Stream.rangeSize_pos chunkSize) hnext hp
  · cases h : (Stream.rounds q src note (B + 1) (Stream.start q chunkSize) w).2 with
    | some ended => exact .of_ended h
    | none =>
      have hbytes := (Stream.le_bytes_of_rounds hsize h).trans (hB (B + 1))
      omega
  · obtain ⟨n, hn⟩ : ∃ n, max 1 T = n + 1 := ⟨max 1 T - 1, by omega⟩
    cases h : (Stream.rounds q src note (n + 1) (Stream.start q chunkSize) w).2 with
    | some ended => exact hn ▸ .of_ended h
    | none =>
      have hbelow := Stream.lt_total_of_rounds hsize h (hT (n + 1))
      omega

/-- Two of three bytes, and then nothing. -/
def stalling : List (Except Unit Chunk) :=
  [.ok ⟨"a", some 3, false⟩, .ok ⟨"b", some 3, false⟩, .ok ⟨[], some 3, false⟩]

/-- A source of two bytes is asked three times before the download fails, and no more. -/
theorem stalling_stops :
    let src := watched (Stream.scripted ())
    let w : Scene Binary64 _ := ⟨stalling, .empty, []⟩
    let note := recording fun _ => id
    StopsWithin .binary64 src note (fun _ => []) "f" 1 w 3 ∧
      (fetches .binary64 src note 1 w 3).length = 3 := by
  intro src w note
  have hended : (Stream.rounds .binary64 src note 3 (Stream.start .binary64 1) w).2.isSome := by
    decide +kernel
  obtain ⟨ended, hended⟩ := Option.isSome_iff_exists.mp hended
  have hfew : ∀ n ≤ 3, (Stream.bytesOf (fetches .binary64 src note 1 w n)).length ≤ 2 := by
    decide +kernel
  have hbytes : ∀ n, (Stream.bytesOf (fetches .binary64 src note 1 w n)).length ≤ 2 := by
    intro n
    rcases Nat.le_total n 3 with hn | hn
    · exact hfew n hn
    · rw [fetches, Stream.rounds_of_ended hn hended]
      exact hfew 3 le_rfl
  exact ⟨(download_stops .binary64 src note (fun _ => []) "f" 1 w).2.1 2 hbytes, by decide +kernel⟩

end Download

end DocPull
