import DocPull.Drive.Export
import DocPull.Proofs.Export.Download

/-!
# Files assembled from answers

A download over the service is seen through the answers that its requests got. All of them but the
last are partial; the last one is another success, a partial answer, or an error that stands for
the end of the document. What the file holds follows from them, and so does exactly when it may be
short.
-/
open DocPull.Files.Tree

namespace DocPull.Drive

variable {φ ρ : Type}

/-- The answer that a step of a run got. -/
def delivered (c : Client ρ) (fileId mimeType : Bytes) (step : Stream.Step φ Host) :
    Option Http.Reply :=
  (askRange c fileId mimeType step.stream.range.1 step.stream.range.2 step.world).1.toOption

/-- The length of the whole document that an answer states. -/
def statedTotal (reply : Http.Reply) : Option Nat :=
  (parseContentRange (reply.header "Content-Range")).join

/-- The length of the whole document that was stated last. -/
def lastStated (replies : List Http.Reply) : Option Nat := replies.reverse.findSome? statedTotal

@[simp] theorem lastStated_concat (replies : List Http.Reply) (reply : Http.Reply) :
    lastStated (replies ++ [reply]) = (statedTotal reply).or (lastStated replies) := by
  simp only [lastStated, List.reverse_append, List.reverse_cons, List.reverse_nil, List.nil_append,
    List.singleton_append, List.findSome?_cons]
  cases statedTotal reply <;> rfl

/-- The chunk that an answer gives to a stream that holds so many bytes. -/
inductive Yields (received : Nat) (reply : Http.Reply) : Chunk → Prop where
  | whole (hs : isSuccess reply.status = true) (hp : reply.status ≠ 206) :
      Yields received reply ⟨reply.body, some reply.body.length, true⟩
  | part (total : Option Nat) (hp : reply.status = 206)
      (ht : parseContentRange (reply.header "Content-Range") = some total) :
      Yields received reply ⟨reply.body, total, false⟩
  | past (hs : isSuccess reply.status = false) : Yields received reply ⟨[], some received, false⟩

theorem readBody_ok {reply : Http.Reply} {h h' : Host} {body : Bytes}
    (hb : Http.readBody (ρ := ρ) none reply h = (.ok body, h')) : body = reply.body := by
  simp only [Http.readBody, Http.Wire.readBody] at hb
  cases he : reply.ending with
  | complete =>
    simp only [he, Prod.mk.injEq, Except.ok.injEq] at hb
    exact hb.1.symm
  | fails m => simp [he] at hb
  | cancels => simp [he] at hb

theorem readChunk_ok {fileId : Bytes} {received : Nat} {reply : Http.Reply} {h h' : Host}
    {chunk : Chunk} (hr : readChunk (ρ := ρ) fileId received reply h = (.ok chunk, h')) :
    Yields received reply chunk := by
  simp only [readChunk] at hr
  by_cases hs : isSuccess reply.status = true
  · simp only [hs, Bool.not_true, Bool.false_eq_true, if_false] at hr
    split at hr
    · simp at hr
    · rename_i body h₁ hb
      have hbody := readBody_ok hb
      subst hbody
      simp only [Prod.mk.injEq, chunkOf] at hr
      obtain ⟨hc, -⟩ := hr
      split_ifs at hc with hp
      · rw [Except.ok.injEq] at hc
        rw [← hc]
        exact .whole hs hp
      · split at hc
        · rename_i total ht
          rw [Except.ok.injEq] at hc
          rw [← hc]
          exact .part total (not_not.mp hp) ht
        · cases hc
  · rw [Bool.not_eq_true] at hs
    simp only [hs, Bool.not_false, if_true] at hr
    split_ifs at hr
    · simp only [Prod.mk.injEq, Except.ok.injEq, Int.toNat_natCast] at hr
      rw [← hr.1]
      exact .past hs
    · simp at hr

/-- A step that succeeded got an answer, and took in the chunk that this answer gives. -/
theorem delivered_of_next {q : Quotients φ} {c : Client ρ} {fileId mimeType : Bytes}
    {s s' : Stream φ} {h h' : Host} {p : Progress φ}
    (hn : s.next q (chunks c fileId mimeType) h = (.ok p, s', h')) :
    s.done = false ∧ ∃ reply chunk, delivered c fileId mimeType ⟨s, h, p⟩ = some reply ∧
      Yields s.received reply chunk ∧ s.Takes chunk s' := by
  obtain ⟨hd, chunk, hf, ht, -⟩ := Stream.next_ok hn
  refine ⟨hd, ?_⟩
  simp only [chunks, exportRange] at hf
  split at hf
  · simp at hf
  · rename_i reply h₁ ha
    refine ⟨reply, chunk, ?_, readChunk_ok hf, ht⟩
    simp only [delivered, ha, Except.toOption]

/-- What a stream holds while all answers were partial. -/
structure Partial (replies : List Http.Reply) (s : Stream φ) : Prop where
  status : ∀ r ∈ replies, r.status = 206
  content : s.content = replies.flatMap (·.body)
  received : s.received = s.content.length
  total : s.total = lastStated replies

/-- What a file holds in the end: the body of a last answer that is a success of another kind, or
the bodies of all partial answers in order. A last answer that is partial has reached the total
that was stated last. -/
structure Assembled (replies : List Http.Reply) (last : Http.Reply) (file : Bytes) : Prop where
  last_eq : replies.getLast? = some last
  before : ∀ r ∈ replies.dropLast, r.status = 206
  whole : isSuccess last.status = true → last.status ≠ 206 → file = last.body
  parts : last.status = 206 → file = replies.flatMap (·.body)
  reached : last.status = 206 → ∀ n, lastStated replies = some n → n ≤ file.length
  past : isSuccess last.status = false → file = replies.dropLast.flatMap (·.body)

/-- One more answer keeps a partial document partial, or completes the assembly. -/
theorem Partial.step {replies : List Http.Reply} {s s' : Stream φ} {reply : Http.Reply}
    {chunk : Chunk} (hs : Partial replies s) (hd : s.done = false)
    (hy : Yields s.received reply chunk) (ht : s.Takes chunk s') :
    (s'.done = false → Partial (replies ++ [reply]) s') ∧
      (s'.done = true → Assembled (replies ++ [reply]) reply s'.content) := by
  have hlast : (replies ++ [reply]).getLast? = some reply := by simp
  have hbefore : ∀ r ∈ (replies ++ [reply]).dropLast, r.status = 206 := by
    simpa using hs.status
  cases hy with
  | whole hsucc hp =>
    cases ht with
    | whole f hc =>
      refine ⟨by simp, fun _ => ⟨hlast, hbefore, fun _ _ => rfl, ?_, ?_, ?_⟩⟩
      · exact fun h => absurd h hp
      · exact fun h => absurd h hp
      · intro h
        rw [hsucc] at h
        cases h
    | last f hc h => simp at hc
    | more f hc h => simp at hc
  | part total hp hpc =>
    have hsucc : isSuccess reply.status = true := by rw [hp]; rfl
    have htotal : s.totalAfter ⟨reply.body, total, false⟩ = lastStated (replies ++ [reply]) := by
      simp only [Stream.totalAfter, lastStated_concat, statedTotal, hpc, hs.total]
      rfl
    have hcontent : s.content ++ reply.body = (replies ++ [reply]).flatMap (·.body) := by
      simp [hs.content]
    cases ht with
    | whole f hc => simp at hc
    | last f hc h =>
      refine ⟨by simp, fun _ => ⟨hlast, hbefore, ?_, fun _ => hcontent, ?_, ?_⟩⟩
      · exact fun _ hne => absurd hp hne
      · intro _ n hn
        rw [Stream.Ends, htotal, hn] at h
        simpa [hs.received] using h
      · intro hf
        rw [hsucc] at hf
        cases hf
    | more f hc h =>
      refine ⟨fun _ => ⟨?_, hcontent, ?_, htotal⟩, ?_⟩
      · intro r hr
        rcases List.mem_append.mp hr with hr | hr
        · exact hs.status r hr
        · rw [List.mem_singleton.mp hr]
          exact hp
      · simp [hs.received]
      · intro hf
        rw [hd] at hf
        cases hf
  | past hsucc =>
    cases ht with
    | whole f hc => simp at hc
    | last f hc h =>
      refine ⟨by simp, fun _ => ⟨hlast, hbefore, ?_, ?_, ?_, ?_⟩⟩
      · intro hf
        rw [hsucc] at hf
        cases hf
      · intro hp
        rw [hp] at hsucc
        cases hsucc
      · intro hp
        rw [hp] at hsucc
        cases hsucc
      · intro _
        simp [hs.content]
    | more f hc h =>
      simp [Stream.GoesOn, Stream.totalAfter] at h

/-- A whole run: its steps got answers, and the file that results is assembled from them. -/
theorem pullAll_assembled {q : Quotients φ} {c : Client ρ} {fileId mimeType : Bytes}
    {note : Progress φ → Host → Host} {size : Int} {s : Stream φ} {h h' : Host}
    (hp : Stream.pullAll q (chunks c fileId mimeType) note size h = (.ok (), s, h')) :
    ∃ replies last, (Stream.allSteps q (chunks c fileId mimeType) note size h).map
        (delivered c fileId mimeType) = replies.map some ∧
      Assembled replies last s.content := by
  -- The answers so far belong to the steps so far, and the stream is what they make of it.
  let I (taken : List (Stream.Step φ Host)) (s : Stream φ) (_ : Host) : Prop :=
    ∃ replies, taken.map (delivered c fileId mimeType) = replies.map some ∧
      (s.done = false → Partial replies s) ∧
      (s.done = true → ∃ last, Assembled replies last s.content)
  have hstart : I [] (Stream.start q size) h :=
    ⟨[], rfl, fun _ => ⟨by simp, rfl, rfl, rfl⟩, by simp [Stream.start]⟩
  have hstep : ∀ taken s w p s' w', I taken s w →
      s.next q (chunks c fileId mimeType) w = (.ok p, s', w') →
      I (taken ++ [⟨s, w, p⟩]) s' (note p w') := by
    rintro taken s w p s' w' ⟨replies, hmap, hpart, -⟩ hn
    obtain ⟨hd, reply, chunk, hdel, hy, ht⟩ := delivered_of_next hn
    obtain ⟨hmore, hlast⟩ := (hpart hd).step hd hy ht
    exact ⟨replies ++ [reply], by simp [hmap, hdel], hmore, fun h => ⟨reply, hlast h⟩⟩
  obtain ⟨hdone, replies, hmap, -, hlast⟩ :=
    Stream.pull_ok_induction I hstep _ [] _ _ _ _ hstart hp
  obtain ⟨last, hlast⟩ := hlast hdone
  exact ⟨replies, last, by simpa [Stream.allSteps] using hmap, hlast⟩

/-- A file is not short of what the service sent: it is the body of a last answer of status 200, or
it joins the bodies of partial answers, after which at most one answer says that the range is past
the end, and it is as long as was stated last. -/
def Untruncated (replies : List Http.Reply) (file : Bytes) : Prop :=
  (∃ last, replies.getLast? = some last ∧ last.status = 200 ∧ file = last.body) ∨
  ∃ parts closing, replies = parts ++ closing ∧ (∀ r ∈ parts, r.status = 206) ∧
    (closing = [] ∨ ∃ r, closing = [r] ∧ r.status = 416) ∧ file = parts.flatMap (·.body) ∧
    ∀ n, lastStated replies = some n → n ≤ file.length

/-- The last answer alone decides whether a file is short. -/
def Settles (replies : List Http.Reply) (last : Http.Reply) (file : Bytes) : Prop :=
  last.status = 200 ∨ last.status = 206 ∨
    last.status = 416 ∧ ∀ n, lastStated replies = some n → n ≤ file.length

theorem Assembled.untruncated_iff {replies : List Http.Reply} {last : Http.Reply} {file : Bytes}
    (h : Assembled replies last file) : Untruncated replies file ↔ Settles replies last file := by
  have hreplies : replies.dropLast ++ [last] = replies :=
    List.dropLast_append_getLast? last h.last_eq
  constructor
  · rintro (⟨last', hlast', hs, -⟩ | ⟨parts, closing, hsplit, hparts, hclosing, -, hn⟩)
    · rw [h.last_eq, Option.some.injEq] at hlast'
      exact .inl (hlast' ▸ hs)
    · rcases hclosing with rfl | ⟨r, rfl, hr⟩
      · refine .inr (.inl (hparts last ?_))
        rw [← List.append_nil parts, ← hsplit, ← hreplies]
        simp
      · have hlast := h.last_eq
        rw [hsplit, List.getLast?_concat, Option.some.injEq] at hlast
        exact .inr (.inr ⟨hlast ▸ hr, hn⟩)
  · rintro (hs | hs | ⟨hs, hn⟩)
    · exact .inl ⟨last, h.last_eq, hs, h.whole (by rw [hs]; rfl) (by rw [hs]; decide)⟩
    · refine .inr ⟨replies, [], by simp, ?_, .inl rfl, h.parts hs, h.reached hs⟩
      intro r hr
      rw [← hreplies, List.mem_append, List.mem_singleton] at hr
      rcases hr with hr | rfl
      · exact h.before r hr
      · exact hs
    · exact .inr ⟨replies.dropLast, [last], hreplies.symm, h.before, .inr ⟨last, rfl, hs⟩,
        h.past (by rw [hs]; rfl), hn⟩

/-- For every client, callback and target. The answers to a download that succeeded make up the file
at its target, and the file is not short exactly when the last answer has status 200 or 206, or has
status 416 while the length that was stated last is reached. A 416 otherwise, or a success of any
other status, closes the download with what there is. -/
theorem download_untruncated_iff {q : Quotients φ} {c : Client ρ} {fileId mimeType : Bytes}
    {note : Progress φ → Host → Host} {digits : Nat → Bytes} {dest : Bytes} {size : Int}
    {h h' : Host} {r : Download.Result}
    (hrun : Download.run q (chunks c fileId mimeType) note digits dest size h = (.ok r, h')) :
    ∃ replies last file,
      (Stream.allSteps q (chunks c fileId mimeType) note size h).map
        (delivered c fileId mimeType) = replies.map some ∧
      h'.tree.read dest = .ok file ∧ Assembled replies last file ∧
      (Untruncated replies file ↔ Settles replies last file) := by
  obtain ⟨s, h₁, t, l, hp, -, hw, hl, hrep⟩ := Download.run_ok hrun
  obtain ⟨replies, last, hmap, hass⟩ := pullAll_assembled hp
  refine ⟨replies, last, s.content, hmap, ?_, hass, hass.untruncated_iff⟩
  rw [hw]
  exact read_of_file hl hrep.here rfl

/-- A world without files, in which the network gives these replies. -/
def sampleHost (replies : List Http.Reply) : Host where
  tree := .empty
  wire := .ofAnswers (replies.map .reply) false
  now := ⟨0, 0, 0⟩
  entropy := ⟨fun _ => "1", [], [], 0⟩

/-- A client of the service at its usual place. -/
def sampleClient : Client Empty := .new [] [] (Http.plain true)

/-- A download of a document in ranges of two bytes. -/
def sampleRun (replies : List Http.Reply) :
    Except (Download.Error (Error Empty)) Download.Result × Host :=
  Download.run .binary64 (chunks sampleClient "doc" "text/plain") (fun _ h => h) (fun _ => "1")
    "out" 2 (sampleHost replies)

/-- The first two bytes of nine. -/
def firstTwo : Http.Reply := ⟨206, [("Content-Range", "bytes 0-1/9")], "ab", .complete⟩

/-- A range behind the end. -/
def pastEnd : Http.Reply := ⟨416, [], [], .complete⟩

/-- A document of nine bytes is saved with two of them when a 416 comes next. -/
theorem download_short_at_past_end :
    (sampleRun [firstTwo, pastEnd]).1 = .ok ⟨"out", 2⟩ ∧
      (sampleRun [firstTwo, pastEnd]).2.tree.read "out" = .ok "ab" ∧
      ¬Untruncated [firstTwo, pastEnd] "ab" := by
  have hok : (sampleRun [firstTwo, pastEnd]).1 = .ok ⟨"out", 2⟩ := by decide +kernel
  have hrun : sampleRun [firstTwo, pastEnd] =
      (.ok ⟨"out", 2⟩, (sampleRun [firstTwo, pastEnd]).2) := by
    rw [← hok]
  have hsteps : (Stream.allSteps .binary64 (chunks sampleClient "doc" "text/plain") (fun _ h => h) 2
      (sampleHost [firstTwo, pastEnd])).map (delivered sampleClient "doc" "text/plain") =
      [firstTwo, pastEnd].map some := by
    decide +kernel
  have hstated : lastStated [firstTwo, pastEnd] = some 9 := by decide +kernel
  obtain ⟨replies, last, file, hmap, hread, hass, hiff⟩ := download_untruncated_iff hrun
  obtain rfl : [firstTwo, pastEnd] = replies :=
    List.map_injective_iff.mpr (Option.some_injective _) (hsteps.symm.trans hmap)
  obtain rfl : pastEnd = last := Option.some.inj hass.last_eq
  obtain rfl : file = "ab" := by simpa [firstTwo] using hass.past rfl
  refine ⟨hok, hread, fun hu => ?_⟩
  obtain hs | hs | ⟨-, hn⟩ := hiff.mp hu
  · exact absurd hs (by decide)
  · exact absurd hs (by decide)
  · exact absurd (hn 9 hstated) (by decide)

end DocPull.Drive
