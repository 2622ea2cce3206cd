import DocPull.Proofs.Http.Cancellation
import DocPull.Proofs.Outcome
import DocPull.Published

/-!
# Canceled fetches

A fetch that is canceled fails, and its error says so; no other fetch fails with such an error. It
is blamed on cancellation alone as long as no answer was delivered. Once the body of a good answer
is being read, the network is blamed as well.
-/
namespace DocPull.Published

open Http

/-- The world in which the request for a page is made. -/
def started (url : Bytes) (h : Host) : Host :=
  h.log .debug "fetching published document" [("url", .text url)]

/-- What the request for a page comes to, all redirects followed. -/
def requested (u : Url) (url userAgent : Bytes) (h : Host) :
    Except (ClientError Empty) Reply × Host :=
  Http.run (plain true) (request u userAgent) (started url h)

/-- The answer that a fetch gets, if one is delivered. -/
def reply? (url userAgent : Bytes) (h : Host) : Option Reply :=
  (Url.parse url).toOption.bind fun u => (requested u url userAgent h).1.toOption

/-- Cancellation keeps a page from being fetched: before its request, while the request is under
way, or while a good answer is read. -/
inductive Canceled (url userAgent : Bytes) (h : Host) : Prop
  | before {u : Url} (hu : Url.parse url = .ok u) (hc : h.wire.canceled = true)
  | transport {u : Url} {e : ClientError Empty} {h' : Host} (hu : Url.parse url = .ok u)
      (hrun : requested u url userAgent h = (.error e, h')) (hc : h'.wire.canceled = true)
  | body {reply : Reply} (hreply : reply? url userAgent h = some reply)
      (hs : reply.status = 200) (hend : reply.ending = .cancels)

/-- Everything that a fetch can fail from. -/
inductive Fails (url userAgent : Bytes) (h : Host) : Error → Prop
  | badUrl {e : Url.ParseError} (hu : Url.parse url = .error e) : Fails url userAgent h (.badUrl e)
  | unreached {u : Url} {e : ClientError Empty} {h' : Host} (hu : Url.parse url = .ok u)
      (hrun : requested u url userAgent h = (.error e, h')) (hc : h'.wire.canceled = false) :
      Fails url userAgent h (.network url e)
  | canceled {u : Url} {e : ClientError Empty} {h' : Host} (hu : Url.parse url = .ok u)
      (hrun : requested u url userAgent h = (.error e, h')) (hc : h'.wire.canceled = true) :
      Fails url userAgent h .canceled
  | status {u : Url} {reply : Reply} {h' : Host} (hu : Url.parse url = .ok u)
      (hrun : requested u url userAgent h = (.ok reply, h')) (hs : reply.status ≠ 200) :
      Fails url userAgent h (.status reply.status url (reply.body.take maxErrorBody))
  | body {u : Url} {reply : Reply} {h' : Host} {m : Bytes} (hu : Url.parse url = .ok u)
      (hrun : requested u url userAgent h = (.ok reply, h')) (hs : reply.status = 200)
      (hend : reply.ending = .fails m) : Fails url userAgent h (.body url (.failed m))
  | bodyCanceled {u : Url} {reply : Reply} {h' : Host} (hu : Url.parse url = .ok u)
      (hrun : requested u url userAgent h = (.ok reply, h')) (hs : reply.status = 200)
      (hend : reply.ending = .cancels) : Fails url userAgent h (.body url .canceled)

section Cases

variable {url userAgent : Bytes} {h h' : Host} {u : Url} {reply : Reply}

theorem requested_candid (u : Url) (url userAgent : Bytes) (h : Host) :
    Candid (started url h) (requested u url userAgent h) :=
  run_candid (plain_candid true) _ _

/-- Canceled work gets no answer. -/
theorem requested_stops (u : Url) (url userAgent : Bytes) (hc : h.wire.canceled = true) :
    ∃ e h', requested u url userAgent h = (.error e, h') ∧ h'.wire.canceled = true :=
  plain_listening.run_stops (request u userAgent) (h := started url h) hc

theorem fetch_of_error {e : ClientError Empty} (hu : Url.parse url = .ok u)
    (hrun : requested u url userAgent h = (.error e, h')) :
    (fetch url userAgent h).1 =
      .error (if h'.wire.canceled then .canceled else .network url e) := by
  rw [requested, started] at hrun
  simp only [fetch, hu, hrun]

theorem fetch_of_status (hu : Url.parse url = .ok u)
    (hrun : requested u url userAgent h = (.ok reply, h')) (hs : reply.status ≠ 200) :
    (fetch url userAgent h).1 =
      .error (.status reply.status url (reply.body.take maxErrorBody)) := by
  rw [requested, started] at hrun
  simp only [fetch, hu, hrun, hs, ne_eq, not_false_eq_true, if_true]

/-- A good answer is worth its body, if that can be read. -/
theorem fetch_of_ok (hu : Url.parse url = .ok u)
    (hrun : requested u url userAgent h = (.ok reply, h')) (hs : reply.status = 200) :
    (fetch url userAgent h).1 = (readBody none reply h').1.mapError (.body url) := by
  rw [requested, started] at hrun
  simp only [fetch, hu, hrun, hs, ne_eq, not_true_eq_false, if_false]
  cases readBody (ρ := Empty) none reply h' with
  | mk result h₁ => cases result <;> rfl

theorem reply?_of_error {e : ClientError Empty} (hu : Url.parse url = .ok u)
    (hrun : requested u url userAgent h = (.error e, h')) : reply? url userAgent h = none := by
  simp [reply?, hu, hrun, Except.toOption]

theorem reply?_of_ok (hu : Url.parse url = .ok u)
    (hrun : requested u url userAgent h = (.ok reply, h')) :
    reply? url userAgent h = some reply := by
  simp [reply?, hu, hrun, Except.toOption]

/-- A fetch fails in one of the ways there are. -/
theorem fails_of_fetch {e : Error} (hf : (fetch url userAgent h).1 = .error e) :
    Fails url userAgent h e := by
  cases hu : Url.parse url with
  | error p =>
    simp only [fetch, hu, Except.error.injEq] at hf
    exact hf ▸ .badUrl hu
  | ok u =>
    rcases hrun : requested u url userAgent h with ⟨f | reply, h'⟩
    · rw [fetch_of_error hu hrun, Except.error.injEq] at hf
      subst hf
      cases hc : h'.wire.canceled with
      | true => exact .canceled hu hrun hc
      | false => exact .unreached hu hrun hc
    · by_cases hs : reply.status = 200
      · rw [fetch_of_ok hu hrun hs] at hf
        simp only [readBody, Wire.readBody] at hf
        cases hend : reply.ending with
        | complete =>
          rw [hend] at hf
          cases hf
        | fails m =>
          rw [hend] at hf
          cases hf
          exact .body hu hrun hs hend
        | cancels =>
          rw [hend] at hf
          cases hf
          exact .bodyCanceled hu hrun hs hend
      · rw [fetch_of_status hu hrun hs, Except.error.injEq] at hf
        exact hf ▸ .status hu hrun hs

end Cases

section Canceled

variable {url userAgent : Bytes} {h h' : Host} {u : Url} {reply : Reply}

/-- Where a request fails, only work that is canceled by then was canceled. -/
theorem Canceled.of_error {e : ClientError Empty} (hcanceled : Canceled url userAgent h)
    (hu : Url.parse url = .ok u) (hrun : requested u url userAgent h = (.error e, h')) :
    h'.wire.canceled = true := by
  cases hcanceled with
  | before hu₁ hc =>
    obtain ⟨f, h₁, hrun₁, hc₁⟩ := requested_stops u url userAgent hc
    rw [hrun] at hrun₁
    cases hrun₁
    exact hc₁
  | transport hu₁ hrun₁ hc =>
    rw [hu] at hu₁
    cases hu₁
    rw [hrun] at hrun₁
    cases hrun₁
    exact hc
  | body hreply =>
    rw [reply?_of_error hu hrun] at hreply
    cases hreply

/-- Where a request is answered, only the reading of a good answer can be canceled. -/
theorem Canceled.of_reply (hcanceled : Canceled url userAgent h) (hu : Url.parse url = .ok u)
    (hrun : requested u url userAgent h = (.ok reply, h')) :
    reply.status = 200 ∧ reply.ending = .cancels := by
  cases hcanceled with
  | before hu₁ hc =>
    obtain ⟨f, h₁, hrun₁, -⟩ := requested_stops u url userAgent hc
    rw [hrun] at hrun₁
    cases hrun₁
  | transport hu₁ hrun₁ =>
    rw [hu] at hu₁
    cases hu₁
    rw [hrun] at hrun₁
    cases hrun₁
  | body hreply hs hend =>
    rw [reply?_of_ok hu hrun, Option.some.injEq] at hreply
    subst hreply
    exact ⟨hs, hend⟩

theorem Canceled.exists_url (hcanceled : Canceled url userAgent h) :
    ∃ u, Url.parse url = .ok u := by
  cases hcanceled with
  | before hu | transport hu => exact ⟨_, hu⟩
  | body hreply =>
    obtain ⟨u, hu, -⟩ := Option.bind_eq_some_iff.mp hreply
    exact ⟨u, Outcome.toOption_eq_some.mp hu⟩

/-- The error of a fetch tells whether it was canceled. -/
theorem Fails.isA_canceled {e : Error} (hf : Fails url userAgent h e) :
    Failure.isA e .canceled = true ↔ Canceled url userAgent h := by
  cases hf with
  | badUrl hu =>
    refine iff_of_false Bool.false_ne_true fun hcanceled => ?_
    obtain ⟨u, hu₁⟩ := hcanceled.exists_url
    rw [hu] at hu₁
    cases hu₁
  | @unreached u f h' hu hrun hc =>
    have hcandid := requested_candid u url userAgent h
    rw [hrun] at hcandid
    refine iff_of_false (fun hf => ?_) fun hcanceled => ?_
    · rw [hcandid.canceled f rfl hf] at hc
      cases hc
    · rw [hcanceled.of_error hu hrun] at hc
      cases hc
  | canceled hu hrun hc => exact iff_of_true rfl (.transport hu hrun hc)
  | status hu hrun hs =>
    exact iff_of_false Bool.false_ne_true fun hcanceled => hs (hcanceled.of_reply hu hrun).1
  | body hu hrun hs hend =>
    refine iff_of_false Bool.false_ne_true fun hcanceled => ?_
    rw [(hcanceled.of_reply hu hrun).2] at hend
    cases hend
  | bodyCanceled hu hrun hs hend => exact iff_of_true rfl (.body (reply?_of_ok hu hrun) hs hend)

/-- A canceled fetch fails: before an answer was delivered for being canceled only, and after that
for its body. -/
theorem Canceled.fetch_eq (hcanceled : Canceled url userAgent h) :
    (fetch url userAgent h).1 =
      .error (if (reply? url userAgent h).isNone then .canceled else .body url .canceled) := by
  obtain ⟨u, hu⟩ := hcanceled.exists_url
  rcases hrun : requested u url userAgent h with ⟨e | reply, h'⟩
  · rw [fetch_of_error hu hrun, reply?_of_error hu hrun, hcanceled.of_error hu hrun]
    rfl
  · obtain ⟨hs, hend⟩ := hcanceled.of_reply hu hrun
    rw [fetch_of_ok hu hrun hs, reply?_of_ok hu hrun]
    simp only [readBody, Wire.readBody, hend]
    rfl

end Canceled

/-- For every URL, every script of answers and every point of cancellation, the errors that say so
are those of canceled fetches. A canceled fetch always fails with such an error, and the network is
not blamed exactly when no answer was delivered before cancellation. -/
theorem fetch_canceled_iff (url userAgent : Bytes) (h : Host) :
    (∀ e, (fetch url userAgent h).1 = .error e →
        (Failure.isA e .canceled = true ↔ Canceled url userAgent h)) ∧
      (Canceled url userAgent h → ∃ e, (fetch url userAgent h).1 = .error e ∧
        Failure.isA e .canceled = true ∧
          (Failure.isA e .fetchNetwork = false ↔ reply? url userAgent h = none)) := by
  refine ⟨fun e hf => (fails_of_fetch hf).isA_canceled, fun hcanceled => ?_⟩
  refine ⟨_, hcanceled.fetch_eq, ?_⟩
  cases reply? url userAgent h with
  | none => exact ⟨rfl, iff_of_true rfl rfl⟩
  | some reply => exact ⟨rfl, iff_of_false nofun nofun⟩

/-- An answer that is cut short by cancellation. -/
def cutShort : Reply := ⟨200, [], "partial", .cancels⟩

/-- A network with this answer only. -/
def interrupted : Host where
  tree := .empty
  wire := .ofAnswers [.reply cutShort] false
  now := .unset
  entropy := ⟨fun _ => [], [], [], 0⟩

/-- The network is blamed for a fetch that was canceled in the middle of its body. -/
theorem interrupted_blames_network :
    Canceled "http://sheet.test/x.csv" [] interrupted ∧
      ∃ e, (fetch "http://sheet.test/x.csv" [] interrupted).1 = .error e ∧
        Failure.isA e .canceled = true ∧ Failure.isA e .fetchNetwork = true := by
  have hreply : reply? "http://sheet.test/x.csv" [] interrupted = some cutShort := by
    decide +kernel
  have hcanceled : Canceled "http://sheet.test/x.csv" [] interrupted := .body hreply rfl rfl
  obtain ⟨e, he, hkind, hnetwork⟩ :=
    (fetch_canceled_iff "http://sheet.test/x.csv" [] interrupted).2 hcanceled
  refine ⟨hcanceled, e, he, hkind, ?_⟩
  rw [← Bool.not_eq_false, hnetwork, hreply]
  nofun

end DocPull.Published
