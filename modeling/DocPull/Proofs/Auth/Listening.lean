import DocPull.Auth.Session
import DocPull.Proofs.Auth.Grant
import DocPull.Proofs.Http.Cancellation

/-!
# Canceled work and authorized requests

A request with a session's token may need a new token first. Renewing one is candid about
cancellation, and writing it back does not touch the network: authorized requests listen to
cancellation as those without an authorization do.
-/
namespace DocPull.Auth

open Http

variable {h : Host}

/-- A refusal that was read off an answer has nothing to do with cancellation. -/
theorem readGrant_error {now : Instant} {reply : Reply} {body : Bytes} {e : GrantError}
    (he : readGrant now reply body = .error e) (k : FailureKind) : Failure.isA e k = false := by
  simp only [readGrant, bind, Except.bind, pure, Except.pure, throw, throwThe,
    MonadExceptOf.throw] at he
  split at he
  · split at he
    · split_ifs at he <;> cases he <;> rfl
    · split_ifs at he <;> cases he <;> rfl
  · split at he
    · split_ifs at he <;> cases he <;> rfl
    · split_ifs at he <;> cases he <;> rfl

theorem Tried.candid {listens : Bool} {id : Identity} {style : Int} {params : Query.Params}
    {x : Except GrantError Grant} {w : Wire}
    (ht : Tried listens id style params h.now h.wire x w) : Candid h (x, { h with wire := w }) := by
  have hran : ∀ {r x w₁}, run (plain (ρ := Empty) listens) r h.wire = (x, w₁) →
      Candid h (x, { h with wire := w₁ }) := by
    intro r x w₁ hrun
    have hrun' := run_candid (plain_candid (ρ := Empty) listens) r h
    rwa [run_eq_wire, hrun] at hrun'
  have hgot : ∀ {reply x w₁ w₂},
      readBody (ρ := Empty) (some maxGrantBody) reply w₁ = (x, w₂) →
        Candid { h with wire := w₁ } (x, { h with wire := w₂ }) := by
    intro reply x w₁ w₂ hread
    have hbody := readBody_candid (ρ := Empty) (some maxGrantBody) reply { h with wire := w₁ }
    rwa [readBody_eq_wire, hread] at hbody
  cases ht with
  | unsent hr => exact .of_error (fun hc => hc) fun _ => rfl
  | unanswered hr hrun => exact (hran hrun).wrap (fun hk => hk) fun hk => hk
  | unread hr hrun hread =>
    exact .of_error ((hgot hread).after (hran hrun).stays).stays fun _ => rfl
  | read hr hrun hread hgrant =>
    have hstays := ((hgot hread).after (hran hrun).stays).stays
    cases x with
    | error e => exact .of_error hstays (readGrant_error hgrant)
    | ok g => exact .of_ok g hstays

end DocPull.Auth
