import DocPull.Proofs.Auth.Listening
import DocPull.Proofs.Drive.Failures

/-!
# What a failed operation was caused by

An error of the service has one cause. It is an answer with an error status exactly when such an
answer was delivered, and then its kind is that of the code it carries. Canceled work is never
blamed on the network.
-/
namespace DocPull.Drive

open Http

variable {ρ : Type}

/-- The kinds of failure that tell causes apart. -/
def causeKinds : List FailureKind := [.apiError, .canceled, .driveNetwork]

/-- The kinds of failure that tell error statuses apart. -/
def statusKinds : List FailureKind :=
  [.badRequest, .unauthorized, .forbidden, .notFound, .rateLimited, .serverError]

/-- Cancellation keeps an operation from being done: before its request, while the request is under
way, or while a successful answer is read. -/
inductive Canceled (c : Client ρ) (r : Option Request) (h : Host) : Prop
  | before {q : Request} (hr : r = some q) (hc : h.wire.canceled = true)
  | transport {q : Request} {e : ClientError ρ} {h' : Host} (hr : r = some q)
      (hrun : Http.run c.send q h = (.error e, h')) (hc : h'.wire.canceled = true)
  | body {reply : Reply} (hreply : deliver c r h = some reply)
      (hs : isSuccess reply.status = true) (hend : reply.ending = .cancels)

/-- What the error of a request in a world says about why it failed. -/
structure Explained [Failure ρ] (c : Client ρ) (r : Option Request) (h : Host) (e : Error ρ) :
    Prop where
  atMostOne : ∀ k ∈ causeKinds, ∀ k' ∈ causeKinds,
    Failure.isA e k = true → Failure.isA e k' = true → k = k'
  one : (∃ n ≤ 0, e = .pageSize n) ∨
    (∃ fileId header, parseContentRange header = none ∧ e = .contentRange fileId header) ∨
    ∃ k ∈ causeKinds, Failure.isA e k = true
  api : Failure.isA e .apiError = true ↔
    ∃ reply, deliver c r h = some reply ∧ isSuccess reply.status = false
  status : Failure.isA e .apiError = true →
    ∃ a, e.api? = some a ∧
      ∀ k ∈ statusKinds, Failure.isA e k = true ↔ statusKind? a.status = some k
  canceled : Canceled c r h →
    Failure.isA e .canceled = true ∧ Failure.isA e .driveNetwork = false

section Canceled

variable {c : Client ρ} {r : Option Request} {q : Request} {h h' : Host} {reply : Reply}

theorem deliver_of_error {e : ClientError ρ} (hrun : Http.run c.send q h = (.error e, h')) :
    deliver c (some q) h = none := by
  simp [deliver, hrun, Except.toOption]

variable [Failure ρ]

/-- Where a request fails, only work that is canceled by then was canceled. -/
theorem Canceled.of_error (hsend : Listening c.send) {e : ClientError ρ}
    (hcanceled : Canceled c (some q) h) (hrun : Http.run c.send q h = (.error e, h')) :
    h'.wire.canceled = true := by
  cases hcanceled with
  | before hr hc =>
    cases hr
    obtain ⟨f, h₁, hrun₁, hc₁⟩ := hsend.run_stops q hc
    rw [hrun] at hrun₁
    cases hrun₁
    exact hc₁
  | transport hr hrun₁ hc =>
    cases hr
    rw [hrun] at hrun₁
    cases hrun₁
    exact hc
  | body hreply =>
    rw [deliver_of_error hrun] at hreply
    cases hreply

/-- Where a request is answered, only the reading of a successful answer can be canceled. -/
theorem Canceled.of_reply (hsend : Listening c.send) (hcanceled : Canceled c r h)
    (hreply : deliver c r h = some reply) :
    isSuccess reply.status = true ∧ reply.ending = .cancels := by
  cases hcanceled with
  | before hr hc =>
    subst hr
    obtain ⟨f, h₁, hrun, -⟩ := hsend.run_stops _ hc
    rw [deliver_of_error hrun] at hreply
    cases hreply
  | transport hr hrun hc =>
    subst hr
    rw [deliver_of_error hrun] at hreply
    cases hreply
  | body hreply₁ hs hend =>
    rw [hreply] at hreply₁
    cases hreply₁
    exact ⟨hs, hend⟩

end Canceled

section Explained

variable [Failure ρ] {c : Client ρ} {r : Option Request} {h : Host} {e : Error ρ}

theorem Explained.of_kind {k : FailureKind} (hk : k ∈ causeKinds)
    (hkind : ∀ k' ∈ causeKinds, Failure.isA e k' = true ↔ k' = k)
    (hrefused : k = .apiError ↔
      ∃ reply, deliver c r h = some reply ∧ isSuccess reply.status = false)
    (hstatus : k = .apiError → ∃ a, e.api? = some a ∧
      ∀ k' ∈ statusKinds, Failure.isA e k' = true ↔ statusKind? a.status = some k')
    (hcanceled : Canceled c r h → k = .canceled) : Explained c r h e where
  atMostOne k₁ hk₁ k₂ hk₂ h₁ h₂ :=
    ((hkind k₁ hk₁).mp h₁).trans ((hkind k₂ hk₂).mp h₂).symm
  one := .inr (.inr ⟨k, hk, (hkind k hk).mpr rfl⟩)
  api := by
    rw [hkind _ (by decide), eq_comm]
    exact hrefused
  status ha := hstatus ((hkind _ (by decide)).mp ha).symm
  canceled hc := by
    obtain rfl := hcanceled hc
    refine ⟨(hkind _ hk).mpr rfl, ?_⟩
    rw [← Bool.not_eq_true, hkind _ (by decide)]
    decide

theorem isA_canceled {action : Bytes} {k : FailureKind} :
    Failure.isA (.canceled action : Error ρ) k = true ↔ k = .canceled := by
  simp [Failure.isA]

end Explained

/-- A part of a document whose body is cut short by cancellation. -/
def cutShort : Reply := ⟨206, [("Content-Range", "bytes 0-1/9")], "a", .cancels⟩

/-- A signed-in user, to whom a document is delivered until work is canceled. -/
def interrupted : Host :=
  { sampleHost [cutShort] with
    session := some ⟨.fixed ⟨"access", "Bearer", [], .unset, 0⟩, none⟩ }

end DocPull.Drive
