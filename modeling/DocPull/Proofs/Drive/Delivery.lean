import DocPull.Proofs.Drive.Assembly
import DocPull.Proofs.Drive.ContentRange
import DocPull.Proofs.Export.Termination
import DocPull.Proofs.Files.Alike
import DocPull.Proofs.Http.Client

/-!
# Documents delivered in ranges

A server that holds a document may answer a request for a range in several ways, and differently
every time: with the whole document, with a beginning of the range and the document's length, with
the full range and no length, or, behind the end, with a 416. Whatever it chooses, and whatever it
makes its choice depend on, the download stops and leaves exactly the document in its file.
-/
open DocPull.Files.Tree

namespace DocPull.Drive

open Http

variable {φ ρ : Type}

/-- The bytes of a document from the first to the last position. -/
def slice (content : Bytes) (first last : Nat) : Bytes :=
  (content.drop first).take (last + 1 - first)

/-- How a service that holds a document answers a request for the bytes from the first to the last
position. A condition can be put on the body of a 416. -/
inductive Serves (refusal : Bytes → Prop) (content : Bytes) (first last : Nat) (reply : Reply) :
    Prop where
  | past (hstatus : reply.status = 416) (hend : reply.ending = .complete)
      (hfirst : content.length ≤ first) (hbody : refusal reply.body)
  | whole (hstatus : reply.status = 200) (hend : reply.ending = .complete)
      (hfirst : first < content.length) (hbody : reply.body = content)
  | part (e : Nat) (hstatus : reply.status = 206) (hend : reply.ending = .complete)
      (hfirst : first ≤ e) (hlast : e ≤ last) (he : e < content.length)
      (hbody : reply.body = slice content first e)
      (htotal : reply.header "Content-Range" = contentRange first e (some content.length))
  | full (e : Nat) (hstatus : reply.status = 206) (hend : reply.ending = .complete)
      (hfirst : first < content.length) (he : e = min last (content.length - 1))
      (hbody : reply.body = slice content first e)
      (hopen : reply.header "Content-Range" = [] ∨
        reply.header "Content-Range" = contentRange first e none)

/-- The chunks that such answers come to. -/
inductive Gives (content : Bytes) (first last : Nat) : Chunk → Prop where
  | past (hfirst : content.length ≤ first) : Gives content first last ⟨[], some first, false⟩
  | whole : Gives content first last ⟨content, some content.length, true⟩
  | part (e : Nat) (hfirst : first ≤ e) (hlast : e ≤ last) (he : e < content.length) :
      Gives content first last ⟨slice content first e, some content.length, false⟩
  | full (hfirst : first < content.length) :
      Gives content first last ⟨slice content first (min last (content.length - 1)), none, false⟩

/-- An error document that states no other code than that of its status. -/
def StatesNoOther (body : Bytes) : Prop :=
  ∀ k, complaint? body = some k → k.code = 0 ∨ k.code = 416

theorem apiError_status {body : Bytes} (h : StatesNoOther body) :
    (apiError 416 body).status = 416 := by
  simp only [apiError]
  cases hk : complaint? body with
  | none => simp only; split_ifs <;> rfl
  | some k =>
    obtain h0 | h416 := h k hk
    · simp only [h0]
      split_ifs <;> rfl
    · simp only [h416]
      split_ifs <;> rfl

theorem readBody_complete {reply : Reply} (h : Host) (he : reply.ending = .complete) :
    readBody (ρ := ρ) none reply h = (.ok reply.body, h) := by
  simp only [readBody, Wire.readBody, he]
  rfl

/-- A proper answer is read as a chunk, and nothing changes. -/
theorem readChunk_of_serves (fileId : Bytes) {content : Bytes} {first last : Nat} {reply : Reply}
    (h : Host) (hne : content ≠ []) (hfit : content.length < 0x8000000000000000)
    (hs : Serves StatesNoOther content first last reply) :
    ∃ chunk, readChunk (ρ := ρ) fileId first reply h = (.ok chunk, h) ∧
      Gives content first last chunk := by
  have hlen := List.length_pos_of_ne_nil hne
  have hparse : ∀ e, reply.header "Content-Range" = contentRange first e (some content.length) →
      parseContentRange (reply.header "Content-Range") = some (some content.length) := by
    intro e he
    rw [he]
    exact parseContentRange_contentRange first e (by
      rintro n ⟨⟩
      exact hfit)
  cases hs with
  | past hstatus hend hfirst hbody =>
    refine ⟨_, ?_, .past hfirst⟩
    simp only [readChunk, hstatus, show isSuccess 416 = false from rfl, Bool.not_false, if_true,
      complain, readBody_complete h hend, Except.toOption, Option.getD_some,
      apiError_status hbody, and_true]
    rw [if_pos (by omega), Int.toNat_natCast]
  | whole hstatus hend hfirst hbody =>
    refine ⟨_, ?_, .whole⟩
    simp only [readChunk, hstatus, show isSuccess 200 = true from rfl, Bool.not_true,
      Bool.false_eq_true, if_false, readBody_complete h hend, chunkOf, hbody]
    rfl
  | part e hstatus hend hfirst hlast he hbody htotal =>
    refine ⟨_, ?_, .part e hfirst hlast he⟩
    simp only [readChunk, hstatus, show isSuccess 206 = true from rfl, Bool.not_true,
      Bool.false_eq_true, if_false, readBody_complete h hend, chunkOf, hparse e htotal, hbody]
    rfl
  | full e hstatus hend hfirst he hbody hopen =>
    subst he
    refine ⟨_, ?_, .full hfirst⟩
    have hparse : parseContentRange (reply.header "Content-Range") = some none := by
      obtain h0 | hstar := hopen
      · rw [h0]
        rfl
      · rw [hstar]
        exact parseContentRange_contentRange first _ (by simp)
    simp only [readChunk, hstatus, show isSuccess 206 = true from rfl, Bool.not_true,
      Bool.false_eq_true, if_false, readBody_complete h hend, chunkOf, hparse, hbody]
    rfl

/-- A stream that holds the beginning of a document and goes on. -/
structure Holds (content : Bytes) (size : Nat) (s : Stream φ) : Prop where
  goesOn : s.done = false
  chunkSize : s.chunkSize = size
  received : s.received ≤ content.length
  beginning : s.content = content.take s.received
  total : s.total = none ∨ s.total = some content.length ∧ s.received < content.length

/-- A stream that holds a whole document and ends. -/
def Ended (content : Bytes) (s : Stream φ) : Prop := s.done = true ∧ s.content = content

theorem length_slice {content : Bytes} (first : Nat) {last : Nat} (h : last < content.length) :
    (slice content first last).length = last + 1 - first := by
  simp only [slice, List.length_take, List.length_drop]
  omega

theorem take_append_slice (content : Bytes) {first last : Nat} (h : first ≤ last) :
    content.take first ++ slice content first last = content.take (last + 1) := by
  rw [slice, ← List.take_add]
  congr 1
  omega

/-- What is received next is the document's next bytes. -/
theorem Holds.append_slice {content : Bytes} {size e : Nat} {s : Stream φ}
    (hs : Holds content size s) (hfirst : s.received ≤ e) (he : e < content.length) :
    s.content ++ slice content s.received e = content.take (e + 1) ∧
      s.received + (slice content s.received e).length = e + 1 := by
  constructor
  · rw [hs.beginning, take_append_slice content hfirst]
  · rw [length_slice s.received he]
    omega

/-- One more chunk either leaves more to ask for or completes the document. -/
theorem Holds.step {content : Bytes} {size last : Nat} {s s' : Stream φ} {chunk : Chunk}
    (hs : Holds content size s) (hsize : 0 < size) (hlast : last = s.received + size - 1)
    (hg : Gives content s.received last chunk) (ht : s.Takes chunk s') :
    Holds content size s' ∨ Ended content s' := by
  have hreceived := hs.received
  cases hg with
  | whole =>
    cases ht with
    | whole f hc => exact .inr ⟨rfl, rfl⟩
    | last f hc h => cases hc
    | more f hc h => cases hc
  | past hfirst =>
    have hall : s.content = content := by
      rw [hs.beginning, List.take_of_length_le hfirst]
    cases ht with
    | whole f hc => cases hc
    | last f hc h => exact .inr ⟨rfl, by simp [hall]⟩
    | more f hc h => simp [Stream.GoesOn, Stream.totalAfter] at h
  | part e hfirst hle he =>
    obtain ⟨happ, hnext⟩ := hs.append_slice hfirst he
    cases ht with
    | whole f hc => cases hc
    | last f hc h =>
      simp only [Stream.Ends, Stream.totalAfter, Option.some_or, hnext] at h
      refine .inr ⟨rfl, ?_⟩
      rw [happ, List.take_of_length_le h]
    | more f hc h =>
      simp only [Stream.GoesOn, Stream.totalAfter, Option.some_or, hnext] at h
      refine .inl ⟨hs.goesOn, hs.chunkSize, ?_, ?_, .inr ⟨rfl, ?_⟩⟩
      · simp only [hnext]
        omega
      · simp only [hnext, happ]
      · simp only [hnext]
        omega
  | full hfirst =>
    obtain ⟨e, he⟩ : ∃ e, e = min last (content.length - 1) := ⟨_, rfl⟩
    rw [← he] at ht
    obtain ⟨happ, hnext⟩ := hs.append_slice (show s.received ≤ e by omega) (by omega)
    cases ht with
    | whole f hc => cases hc
    | last f hc h =>
      -- Without a total the chunk is short, so it reaches the end.
      have hend : content.length ≤ e + 1 := by
        simp only [Stream.Ends, Stream.totalAfter, Option.none_or, hnext, hs.chunkSize] at h
        obtain ht | ⟨ht, -⟩ := hs.total
        · simp only [ht] at h
          omega
        · simpa only [ht] using h
      refine .inr ⟨rfl, ?_⟩
      rw [happ, List.take_of_length_le hend]
    | more f hc h =>
      refine .inl ⟨hs.goesOn, hs.chunkSize, ?_, ?_, ?_⟩
      · simp only [hnext]
        omega
      · simp only [hnext, happ]
      · simp only [Stream.GoesOn, Stream.totalAfter, Option.none_or, hnext] at h ⊢
        obtain ht | ⟨ht, -⟩ := hs.total
        · exact .inl ht
        · rw [ht] at h
          exact .inr ⟨ht, h.1⟩

/-- A chunk of the document is always taken in. -/
theorem Holds.take_isOk {ε : Type} {q : Quotients φ} {content : Bytes} {size last : Nat}
    {s : Stream φ} {chunk : Chunk} (hs : Holds content size s) (hsize : 0 < size)
    (hlast : last = s.received + size - 1) (hg : Gives content s.received last chunk) :
    ∃ p s', s.take (ε := ε) q chunk = (.ok p, s') := by
  refine Stream.take_isOk ?_
  cases hg with
  | whole => exact .inl rfl
  | past hfirst =>
    refine .inr (.inl ?_)
    simp [Stream.Ends, Stream.totalAfter]
  | part e hfirst hle he =>
    have hn := length_slice s.received he
    simp only [Stream.Ends, Stream.GoesOn, Stream.totalAfter, Option.some_or]
    omega
  | full hfirst =>
    obtain ⟨e, he⟩ : ∃ e, e = min last (content.length - 1) := ⟨_, rfl⟩
    have hn := length_slice s.received (show e < content.length by omega)
    simp only [← he, Stream.Ends, Stream.GoesOn, Stream.totalAfter, Option.none_or]
    obtain ht | ⟨ht, -⟩ := hs.total
    · simp only [ht]
      omega
    · simp only [ht]
      omega

/-- A reply is a proper answer to a request, in a download that asks for ranges of this size. -/
def Suits (refusal : Bytes → Prop) (content : Bytes) (size : Int) (r : Request) (reply : Reply) :
    Prop :=
  ∀ first last : Nat, (last : Int) = first + size - 1 →
    r.headers.range = some (rangeHeader first last) → Serves refusal content first last reply

/-- The network of a single server. What it answers may depend on all requests made before, the
last one first. -/
def serving (listens : Bool) (server : List Request → Request → Reply) : Transport Host ρ :=
  fun r h =>
    plain listens r { h with
      wire := { h.wire with answers := [.reply (server h.wire.sent r)] } }

/-- While work is not canceled, every request gets the server's answer. -/
theorem serving_eq (listens : Bool) (server : List Request → Request → Reply) (r : Request)
    {h : Host} (hc : h.wire.canceled = false) :
    serving (ρ := ρ) listens server r h =
      (.ok (server h.wire.sent r), { h with wire := ⟨[], r :: h.wire.sent, false⟩ }) := by
  simp [serving, plain, HasWire.wire, HasWire.setWire, Wire.send, hc]

theorem request_range {c : Client ρ} {p : Page} {r : Request} (h : request c p none = .ok r)
    (range : Option Bytes) : ∃ r', request c p range = .ok r' ∧ r'.headers.range = range := by
  simp only [request] at h ⊢
  cases hu : Url.parse (text [below c.base p.path, "?", Query.write p.params]) with
  | error e =>
    rw [hu] at h
    cases h
  | ok u => exact ⟨_, rfl, rfl⟩

/-- The world in which a request for a range is sent: the request has been logged. -/
def beforeAsking (fileId mimeType : Bytes) (first last : Int) (h : Host) : Host :=
  h.log .debug "exporting range"
    [("file_id", .text fileId), ("mime_type", .text mimeType), ("start", .integer first),
      ("end", .integer last)]

/-- A proper answer is no redirect. -/
theorem Serves.not_redirected {refusal : Bytes → Prop} {content : Bytes} {first last : Nat}
    {reply : Reply} (hs : Serves refusal content first last reply) (method : String) :
    redirected? method reply.status = none := by
  cases hs <;> simp [redirected?, *]

/-- A proper answer comes to a chunk of the document. -/
theorem exportRange_of_serves {c : Client ρ} {fileId mimeType content : Bytes} {r : Request}
    {first last : Nat} {h h₁ : Host} {reply : Reply}
    (hreq : request c (exportPage fileId mimeType) (some (rangeHeader first last)) = .ok r)
    (hsend : c.send (signed r) (beforeAsking fileId mimeType first last h) = (.ok reply, h₁))
    (hne : content ≠ []) (hfit : content.length < 0x8000000000000000)
    (hs : Serves StatesNoOther content first last reply) :
    ∃ chunk, exportRange c fileId mimeType first last h = (.ok chunk, h₁) ∧
      Gives content first last chunk := by
  have hask : askRange c fileId mimeType first last h = (.ok reply, h₁) := by
    simp only [askRange, ask, hreq]
    rw [← beforeAsking, run_of_send hsend hs.not_redirected]
  obtain ⟨chunk, hread, hg⟩ := readChunk_of_serves (ρ := ρ) fileId h₁ hne hfit hs
  exact ⟨chunk, by rw [exportRange, hask]; exact hread, hg⟩

/-- The range that a stream asks for next, when its positions fit. -/
theorem Holds.range {content : Bytes} {size : Nat} {s : Stream φ} (hs : Holds content size s)
    (hsize : 0 < size) (hfit : content.length + size < 0x8000000000000000) :
    s.range = ((s.received : Int), ((s.received + size - 1 : Nat) : Int)) := by
  have hreceived := hs.received
  simp only [Stream.range, hs.chunkSize]
  rw [Numeral.wrap_eq_self ⟨by omega, by omega⟩]
  congr 1
  omega

section Server

variable {c : Client ρ} {fileId mimeType content : Bytes} {listens : Bool} {size : Nat}
  {server : List Request → Request → Reply} {q : Quotients φ} {note : Progress φ → Host → Host}

/-- One round over a server that answers properly takes in more of the document, or all of it. -/
theorem Holds.round (hne : content ≠ []) (hsize : 0 < size)
    (hfit : content.length + size < 0x8000000000000000)
    (hserver : ∀ asked r, Suits StatesNoOther content size r (server asked r))
    (hsend : c.send = serving listens server)
    (hreq : ∃ r, request c (exportPage fileId mimeType) none = .ok r) {s : Stream φ} {h : Host}
    (hs : Holds content size s) (hc : h.wire.canceled = false) :
    ∃ p s' h', s.next q (chunks c fileId mimeType) h = (.ok p, s', h') ∧ h'.tree = h.tree ∧
      h'.wire.canceled = false ∧
      (Ended content s' ∨ Holds content size s' ∧ s.received < s'.received) := by
  obtain ⟨r, hr⟩ := hreq
  obtain ⟨r₁, hr₁, hheader⟩ := request_range hr
    (some (rangeHeader s.received (s.received + size - 1 : Nat)))
  have hserves := hserver h.wire.sent (signed r₁) s.received (s.received + size - 1) (by omega)
    (by rw [signed_range, hheader])
  let h₀ := beforeAsking fileId mimeType s.received (s.received + size - 1 : Nat) h
  let h₁ : Host := { h₀ with wire := ⟨[], signed r₁ :: h.wire.sent, false⟩ }
  have hsent : c.send (signed r₁) h₀ = (.ok (server h.wire.sent (signed r₁)), h₁) := by
    rw [hsend]
    exact serving_eq listens server (signed r₁) hc
  obtain ⟨chunk, hfetch, hg⟩ := exportRange_of_serves hr₁ hsent hne (by omega) hserves
  obtain ⟨p, s', htake⟩ := hs.take_isOk (ε := Error ρ) (q := q) hsize rfl hg
  have htakes := (Stream.take_ok htake).1
  refine ⟨p, s', h₁, Stream.next_of_fetch hs.goesOn ?_ htake, rfl, rfl, ?_⟩
  · rw [hs.range hsize hfit]
    exact hfetch
  · obtain hholds | hended := hs.step hsize rfl hg htakes
    · obtain ⟨-, hdata, -, hreceived⟩ := htakes.grows hholds.goesOn (by
        rw [hs.chunkSize]
        omega)
      have hpos := List.length_pos_iff.mpr hdata
      exact .inr ⟨hholds, by omega⟩
    · exact .inl hended

/-- As many rounds as bytes are missing, and one more, are enough for the whole document. -/
theorem Holds.rounds (hne : content ≠ []) (hsize : 0 < size)
    (hfit : content.length + size < 0x8000000000000000)
    (hserver : ∀ asked r, Suits StatesNoOther content size r (server asked r))
    (hsend : c.send = serving listens server)
    (hreq : ∃ r, request c (exportPage fileId mimeType) none = .ok r)
    (hnote : ∀ p h, (note p h).tree = h.tree ∧ (note p h).wire = h.wire) {n : Nat} {s : Stream φ}
    {h : Host} (hs : Holds content size s) (hc : h.wire.canceled = false)
    (hn : content.length + 1 ≤ s.received + n) :
    ∃ s' h', (Stream.rounds q (chunks c fileId mimeType) note n s h).2 = some (.ok (), s', h') ∧
      s'.content = content ∧ h'.tree = h.tree := by
  induction n generalizing s h with
  | zero =>
    have hreceived := hs.received
    omega
  | succ n ih =>
    obtain ⟨p, s₁, h₁, hnext, htree, hlive, hmore⟩ :=
      hs.round (q := q) hne hsize hfit hserver hsend hreq hc
    rw [Stream.rounds_of_next hnext, ← htree, ← (hnote p h₁).1]
    obtain ⟨hdone, hcontent⟩ | ⟨hholds, hlt⟩ := hmore
    · exact ⟨s₁, note p h₁, by rw [Stream.rounds_of_done hdone], hcontent, rfl⟩
    · exact ih hholds (by rw [(hnote p h₁).2, hlive]) (by omega)

end Server

theorem Holds.start (q : Quotients φ) {content : Bytes} {size : Nat} (hsize : 0 < size) :
    Holds content size (Stream.start q size) where
  goesOn := rfl
  chunkSize := by
    rw [Stream.start, if_neg (by omega)]
  received := Nat.zero_le _
  beginning := rfl
  total := .inl rfl

/-- For every document that is not empty, every positive size of the ranges, every target that can
be written and every server: when the server answers each request for a range properly, in any of
the ways there are and differently every time, the download stops after at most one request more
than the document has bytes, it succeeds, and the file is the document. -/
theorem download_delivers_document {q : Quotients φ} {c : Client ρ} {fileId mimeType : Bytes}
    {note : Progress φ → Host → Host} {digits : Nat → Bytes} {dest content : Bytes} {size : Int}
    {h : Host} {listens : Bool} {server : List Request → Request → Reply} (hne : content ≠ [])
    (hsize : 0 < size) (hfit : content.length + size < 0x8000000000000000)
    (hserver : ∀ asked r, Suits StatesNoOther content size r (server asked r))
    (hsend : c.send = serving listens server)
    (hreq : ∃ r, request c (exportPage fileId mimeType) none = .ok r)
    (hlive : h.wire.canceled = false)
    (hnote : ∀ p h, (note p h).tree = h.tree ∧ (note p h).wire = h.wire)
    (hdest : ∃ data, (Files.writeFile h.tree dest data Download.fileMode Download.dirMode
      digits).result = .ok ()) :
    Download.StopsWithin q (chunks c fileId mimeType) note digits dest size h
        (content.length + 1) ∧
      ∀ left : Host → Nat, content.length ≤ left h →
        ∃ h', Download.run q { chunks c fileId mimeType with left := left } note digits dest size
            h = (.ok ⟨dest, content.length⟩, h') ∧ h'.tree.read dest = .ok content := by
  obtain ⟨data, hdata⟩ := hdest
  obtain ⟨size, rfl⟩ : ∃ n : Nat, size = n := ⟨size.toNat, by omega⟩
  have hstart : Holds content size (Stream.start q size) := Holds.start q (by omega)
  have hn : content.length + 1 ≤ (Stream.start q size).received + (content.length + 1) := by omega
  obtain ⟨s, h₁, hended, hcontent, htree⟩ :=
    hstart.rounds hne (by omega) (by omega) hserver hsend hreq hnote hlive hn
  refine ⟨.of_ended hended, fun left hleft => ?_⟩
  have hwrite := Files.writeFile_ok_of_ok hdata content
  obtain ⟨l, hl, hrep⟩ := Files.writeFile_ok hwrite
  refine ⟨{ h₁ with tree := (Files.writeFile h.tree dest content Download.fileMode
    Download.dirMode digits).final h.tree }, ?_, read_of_file hl hrep.here rfl⟩
  rw [Download.run_of_ended hended (by omega)]
  simp only [Download.finish, HasTree.tree, HasTree.setTree, hcontent, htree, hwrite]

/-- The ways to answer a request for a range that is not behind the end. -/
inductive Manner where
  | whole
  /-- A beginning of the range, with the length of the document. -/
  | part (more : Nat)
  | full
  | opened

/-- The answer of a server in some manner. -/
def Manner.reply (content : Bytes) (first last : Nat) : Manner → Reply
  | .whole => ⟨200, [], content, .complete⟩
  | .part more =>
    let e := min (first + more) (min last (content.length - 1))
    ⟨206, [("Content-Range", contentRange first e (some content.length))], slice content first e,
      .complete⟩
  | .full => ⟨206, [], slice content first (min last (content.length - 1)), .complete⟩
  | .opened =>
    let e := min last (content.length - 1)
    ⟨206, [("Content-Range", contentRange first e none)], slice content first e, .complete⟩

theorem Manner.serves (refusal : Bytes → Prop) {content : Bytes} {first last : Nat}
    (hfirst : first < content.length) (hlast : first ≤ last) (m : Manner) :
    Serves refusal content first last (m.reply content first last) := by
  cases m with
  | whole => exact .whole rfl rfl hfirst rfl
  | part more => exact .part _ rfl rfl (by omega) (by omega) (by omega) rfl rfl
  | full => exact .full _ rfl rfl hfirst rfl rfl (.inl rfl)
  | opened => exact .full _ rfl rfl hfirst rfl rfl (.inr rfl)

/-- A range behind the end, refused with a document that states a code. -/
def refusing (code : String) : Reply :=
  ⟨416, [], text ["\x7b\"error\":\x7b\"code\":", code, "\x7d\x7d"], .complete⟩

/-- A server of a document for ranges of one size, which changes its manner from request to
request. -/
def changing (content : Bytes) (size : Nat) (manner : Nat → Manner) (code : String)
    (asked : List Request) (r : Request) : Reply :=
  let asks (first : Nat) : Bool :=
    r.headers.range == some (rangeHeader first (first + size - 1 : Nat))
  match (List.range content.length).find? asks with
  | some first => (manner asked.length).reply content first (first + size - 1)
  | none => refusing code

theorem changing_suits {refusal : Bytes → Prop} (content : Bytes) {size : Nat} (hsize : 0 < size)
    (manner : Nat → Manner) {code : String} (hcode : refusal (refusing code).body)
    (asked : List Request) (r : Request) :
    Suits refusal content size r (changing content size manner code asked r) := by
  intro first last hlast hrange
  obtain rfl : last = first + size - 1 := by omega
  -- A header names its positions, so no other first position is found.
  have honly : ∀ k : Nat, r.headers.range = some (rangeHeader k (k + size - 1 : Nat)) →
      k = first := by
    intro k hk
    rw [hrange, Option.some.injEq] at hk
    exact (rangeHeader_injective hk).1.symm
  simp only [changing]
  split
  · rename_i k hfind
    obtain ⟨hk, hmem, -⟩ := List.find?_eq_some_iff_append.mp hfind
    obtain rfl := honly k (by simpa using hk)
    have hfirst := List.mem_range.mp (List.mem_of_find?_eq_some hfind)
    exact Manner.serves refusal hfirst (by omega) _
  · rename_i hfind
    refine .past rfl rfl ?_ hcode
    by_contra hfirst
    have hnone := List.find?_eq_none.mp hfind first (List.mem_range.mpr (by omega))
    simp [hrange] at hnone

/-- A client of a server of four bytes, for ranges of two. The server sends full ranges, the first
one without a content range, and refuses what is behind the end. -/
def fourBytesClient (code : String) : Client Empty :=
  .new [] [] (serving true (changing "abcd" 2 (fun | 0 => .full | _ => .opened) code))

/-- A document whose length is a multiple of the size of the ranges, closed by a 416. -/
theorem fourBytes_delivered :
    let src := chunks (fourBytesClient "416") "doc" "text/plain"
    Download.StopsWithin .binary64 src (fun _ h => h) (fun _ => "1") "out" 2 (sampleHost []) 5 ∧
      ∀ left : Host → Nat, 4 ≤ left (sampleHost []) →
        ∃ h', Download.run .binary64 { src with left := left } (fun _ h => h) (fun _ => "1") "out" 2
          (sampleHost []) = (.ok ⟨"out", 4⟩, h') ∧ h'.tree.read "out" = .ok "abcd" := by
  have hrequest : (request (fourBytesClient "416") (exportPage "doc" "text/plain")
      none).toOption.isSome = true := by
    decide +kernel
  obtain ⟨r, hr⟩ := Option.isSome_iff_exists.mp hrequest
  have hcode : (complaint? (refusing "416").body).map (·.code) = some 416 := by decide +kernel
  have hstates : StatesNoOther (refusing "416").body := by
    intro k hk
    rw [hk, Option.map_some, Option.some.injEq] at hcode
    exact .inr hcode
  exact download_delivers_document (by decide) (by decide) (by decide)
    (changing_suits "abcd" (by decide) _ hstates) rfl ⟨r, Outcome.toOption_eq_some.mp hr⟩ rfl
    (fun _ _ => ⟨rfl, rfl⟩) ⟨[], by decide +kernel⟩

/-- The same server, but for a code that its refusal states beside the status: every answer is the
one that the range calls for, and the download fails. -/
theorem fourBytes_refused :
    let server := changing "abcd" 2 (fun | 0 => .full | _ => .opened) "500"
    let src := chunks (fourBytesClient "500") "doc" "text/plain"
    (fourBytesClient "500").send = serving true server ∧
      (∀ asked r, Suits (fun _ => True) "abcd" 2 r (server asked r)) ∧
      (Files.writeFile (sampleHost []).tree "out" "abcd" Download.fileMode Download.dirMode
        fun _ => "1").result = .ok () ∧
      (Download.run .binary64 { src with left := fun _ => 4 } (fun _ h => h) (fun _ => "1") "out" 2
        (sampleHost [])).1 = .error (.stream (.fetch 4 5
          (.api "exporting doc" ⟨500, [], "Internal Server Error"⟩))) :=
  ⟨rfl, changing_suits "abcd" (by decide) _ trivial, by decide +kernel, by decide +kernel⟩

end DocPull.Drive
