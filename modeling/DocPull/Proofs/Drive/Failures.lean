import DocPull.Proofs.Drive.Delivery
import DocPull.Proofs.Http.Cancellation

/-!
# Why operations of the service fail

Every operation makes at most one request, and a failure has one cause: the client delivered an
answer with an error status, work was canceled, or the service could not be reached or understood.
Which one it is can be told from what the client delivered and from whether work was canceled.
-/
namespace DocPull.Drive

open Http

variable {ρ : Type}

/-- The page that lists the user's files. -/
def listPage (pageSize : Int) : Page :=
  ⟨"files", none, params "json"
    [("pageSize", Bytes.signed pageSize), ("fields", "nextPageToken, files(id, name)")]⟩

/-- The world in which files are listed: what is about to be done has been logged. -/
def beforeListing (pageSize : Int) (h : Host) : Host :=
  h.log .debug "listing files" [("page_size", .integer pageSize)]

/-- The operations of the service. -/
inductive Operation where
  | listFiles (pageSize : Int)
  | getFile (fileId : Bytes)
  | about
  | exportRange (fileId mimeType : Bytes) (first last : Int)

namespace Operation

/-- What an operation fails with, if it does. -/
def failure? (c : Client ρ) (h : Host) : Operation → Option (Error ρ)
  | .listFiles n => Outcome.error? (Drive.listFiles c n h).1
  | .getFile fileId => Outcome.error? (Drive.getFile c fileId h).1
  | .about => Outcome.error? (Drive.about c h).1
  | .exportRange fileId mimeType first last =>
    Outcome.error? (Drive.exportRange c fileId mimeType first last h).1

/-- The request of an operation, if there is one to make. -/
def request? (c : Client ρ) : Operation → Option Request
  | .listFiles n =>
    if n ≤ 0 then none else (request c (listPage n) none).toOption
  | .getFile fileId =>
    (request c ⟨text ["files/", placeholder], some fileId,
      params "json" [("fields", "id, name")]⟩ none).toOption
  | .about =>
    (request c ⟨"about", none,
      params "json" [("fields", "user(displayName, emailAddress)")]⟩ none).toOption
  | .exportRange fileId mimeType first last =>
    (request c (exportPage fileId mimeType) (some (rangeHeader first last))).toOption

/-- The world in which the request is made. -/
def started (h : Host) : Operation → Host
  | .listFiles n => beforeListing n h
  | .exportRange fileId mimeType first last => beforeAsking fileId mimeType first last h
  | _ => h

end Operation

/-- What a client delivers for a request, all redirects followed. -/
def deliver (c : Client ρ) (r : Option Request) (h : Host) : Option Reply :=
  r.bind fun r => (Http.run c.send r h).1.toOption

/-- The answer that an operation gets. -/
def Operation.reply? (c : Client ρ) (h : Host) (op : Operation) : Option Reply :=
  deliver c (op.request? c) (op.started h)

/-- Everything a failure can come from, for a request that is made in a world, if there is one. -/
inductive Fails (c : Client ρ) (r : Option Request) (h : Host) : Error ρ → Prop
  | pageSize (n : Int) (hn : n ≤ 0) (hr : r = none) : Fails c r h (.pageSize n)
  | url (action : Bytes) (e : Url.ParseError) (hr : r = none) :
      Fails c r h (.network action (.url e))
  | unreached (action : Bytes) {q : Request} {e : ClientError ρ} {h' : Host} (hr : r = some q)
      (hrun : Http.run c.send q h = (.error e, h')) (hc : h'.wire.canceled = false) :
      Fails c r h (.network action (.client e))
  | canceled (action : Bytes) {q : Request} {e : ClientError ρ} {h' : Host} (hr : r = some q)
      (hrun : Http.run c.send q h = (.error e, h')) (hc : h'.wire.canceled = true) :
      Fails c r h (.canceled action)
  | api (action : Bytes) (e : ApiError) {reply : Reply} (hreply : deliver c r h = some reply)
      (hs : isSuccess reply.status = false) : Fails c r h (.api action e)
  | bodyCanceled (action : Bytes) {reply : Reply} (hreply : deliver c r h = some reply)
      (hs : isSuccess reply.status = true) : Fails c r h (.canceled action)
  | body (action : Bytes) {reply : Reply} {m : Bytes} (hreply : deliver c r h = some reply)
      (hs : isSuccess reply.status = true) (hend : reply.ending = .fails m) :
      Fails c r h (.network action (.body (.failed m)))
  | malformed (action : Bytes) {reply : Reply} (hreply : deliver c r h = some reply)
      (hs : isSuccess reply.status = true) (hend : reply.ending = .complete) :
      Fails c r h (.network action .malformed)
  | contentRange (fileId : Bytes) {reply : Reply} (hreply : deliver c r h = some reply)
      (hs : isSuccess reply.status = true) (hend : reply.ending = .complete)
      (hrange : parseContentRange (reply.header "Content-Range") = none) :
      Fails c r h (.contentRange fileId (reply.header "Content-Range"))

section Cases

variable {c : Client ρ} {h h' : Host} {e : Error ρ}

theorem ask_error {action : Bytes} {p : Page} {range : Option Bytes}
    (hask : ask c action p range h = (.error e, h')) :
    Fails c (request c p range).toOption h e := by
  unfold ask at hask
  cases hr : request c p range with
  | error u =>
    rw [hr] at hask
    obtain ⟨rfl, -⟩ := hask
    exact .url action u rfl
  | ok r =>
    rw [hr] at hask
    dsimp only at hask
    rcases hrun : Http.run c.send r h with ⟨f | reply, h₁⟩
    · rw [hrun] at hask
      cases hc : h₁.wire.canceled with
      | true =>
        simp only [hc, if_true, Prod.mk.injEq, Except.error.injEq] at hask
        obtain ⟨rfl, -⟩ := hask
        exact .canceled action rfl hrun hc
      | false =>
        simp only [hc, Bool.false_eq_true, if_false, Prod.mk.injEq, Except.error.injEq] at hask
        obtain ⟨rfl, -⟩ := hask
        exact .unreached action rfl hrun hc
    · rw [hrun] at hask
      cases hask

theorem ask_toOption (action : Bytes) (p : Page) (range : Option Bytes) :
    (ask c action p range h).1.toOption = deliver c (request c p range).toOption h := by
  unfold ask
  cases hr : request c p range with
  | error u => rfl
  | ok r =>
    dsimp only
    rcases hrun : Http.run c.send r h with ⟨f | reply, h₁⟩
    · simp [deliver, Except.toOption, hrun]
    · simp [deliver, Except.toOption, hrun]

theorem ask_ok {action : Bytes} {p : Page} {range : Option Bytes} {reply : Reply}
    (hask : ask c action p range h = (.ok reply, h')) :
    deliver c (request c p range).toOption h = some reply := by
  rw [← ask_toOption action, hask]
  rfl

/-- A call fails for its request, with its answer or with the body of its answer. -/
theorem call_fails {α : Type} {action : Bytes} {p : Page} {nothing : α} {read : Json → Option α}
    (hcall : (call c action p nothing read h).1 = .error e) :
    Fails c (request c p none).toOption h e := by
  unfold call at hcall
  rcases hask : ask c action p none h with ⟨e₁ | reply, h₁⟩
  · rw [hask] at hcall
    cases hcall
    exact ask_error hask
  · have hreply := ask_ok hask
    rw [hask] at hcall
    dsimp only at hcall
    split_ifs at hcall with h304 hs h204
    · cases hcall
      exact .api action _ hreply (by rw [h304]; rfl)
    · cases hcall
      exact .api action _ hreply (by simpa using hs)
    · simp only [Bool.not_eq_true, Bool.not_eq_false'] at hs
      cases hend : reply.ending with
      | complete =>
        rw [readBody_complete h₁ hend] at hcall
        dsimp only at hcall
        split at hcall
        · cases hcall
        · cases hcall
          exact .malformed action hreply hs hend
      | fails m =>
        simp only [readBody, Wire.readBody, hend] at hcall
        cases hcall
        exact .body action hreply hs hend
      | cancels =>
        simp only [readBody, Wire.readBody, hend] at hcall
        cases hcall
        exact .bodyCanceled action hreply hs

/-- A chunk cannot be fetched for the same reasons, or because its content range is unreadable. -/
theorem exportRange_fails {fileId mimeType : Bytes} {first last : Int}
    (hexport : (exportRange c fileId mimeType first last h).1 = .error e) :
    Fails c (request c (exportPage fileId mimeType) (some (rangeHeader first last))).toOption
      (beforeAsking fileId mimeType first last h) e := by
  unfold exportRange at hexport
  rcases hask : askRange c fileId mimeType first last h with ⟨e₁ | reply, h₁⟩
  · rw [hask] at hexport
    cases hexport
    exact ask_error hask
  · have hreply := ask_ok hask
    rw [hask] at hexport
    dsimp only [readChunk] at hexport
    cases hs : isSuccess reply.status with
    | false =>
      simp only [hs, Bool.not_false, if_true] at hexport
      split_ifs at hexport
      · cases hexport
        exact .api _ _ hreply hs
    | true =>
      simp only [hs, Bool.not_true, Bool.false_eq_true, if_false] at hexport
      cases hend : reply.ending with
      | complete =>
        simp only [readBody_complete h₁ hend, chunkOf] at hexport
        split_ifs at hexport
        · split at hexport
          · cases hexport
          · next hrange =>
            cases hexport
            exact .contentRange _ hreply hs hend hrange
      | fails m =>
        simp only [readBody, Wire.readBody, hend] at hexport
        split_ifs at hexport
        · cases hexport
          exact .bodyCanceled _ hreply hs
        · cases hexport
          exact .body _ hreply hs hend
      | cancels =>
        simp only [readBody, Wire.readBody, hend] at hexport
        cases hexport
        exact .bodyCanceled _ hreply hs

/-- Listing files fails for its page size or with its call. -/
theorem listFiles_error? (c : Client ρ) (pageSize : Int) (h : Host) :
    Outcome.error? (listFiles c pageSize h).1 =
      if pageSize ≤ 0 then some (.pageSize pageSize)
      else Outcome.error? (call c "listing files" (listPage pageSize) ⟨.empty, []⟩ readListing
        (beforeListing pageSize h)).1 := by
  unfold listFiles
  split_ifs
  · rfl
  · dsimp only [beforeListing, listPage]
    split
    · next hcall =>
      rw [hcall]
      rfl
    · next hcall =>
      rw [hcall]
      rfl

end Cases

namespace Operation

variable {c : Client ρ} {h : Host} {op : Operation}

theorem fails {e : Error ρ} (hf : op.failure? c h = some e) :
    Fails c (op.request? c) (op.started h) e := by
  cases op with
  | listFiles n =>
    rw [failure?, listFiles_error?] at hf
    rw [request?, started]
    split_ifs at hf ⊢ with hn
    · cases hf
      exact .pageSize n hn rfl
    · exact call_fails (Outcome.error?_eq_some.mp hf)
  | getFile fileId => exact call_fails (Outcome.error?_eq_some.mp hf)
  | about => exact call_fails (Outcome.error?_eq_some.mp hf)
  | exportRange fileId mimeType first last => exact exportRange_fails (Outcome.error?_eq_some.mp hf)

end Operation

end DocPull.Drive
