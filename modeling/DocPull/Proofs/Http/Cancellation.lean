import DocPull.Host
import Mathlib.Tactic

/-!
# Canceled work

Work that is canceled stays canceled, and nothing else counts as canceled: a failure is one of
cancellation only where work was canceled by then. What holds of sending one request holds of
following its redirects.
-/
namespace DocPull.Http

section Candid

variable {ε ε' α β : Type} [Failure ε] [Failure ε']

/-- The outcome of an action that is candid about cancellation, and that does not pass for an answer
of the Drive service when it fails. -/
structure Candid (h : Host) (r : Except ε α × Host) : Prop where
  stays : h.wire.canceled = true → r.2.wire.canceled = true
  canceled : ∀ e, r.1 = .error e → Failure.isA e .canceled = true → r.2.wire.canceled = true
  foreign : ∀ e, r.1 = .error e → Failure.isA e .apiError = false

namespace Candid

variable {h h₁ : Host} {r : Except ε α × Host}

theorem of_ok (a : α) (hstays : h.wire.canceled = true → h₁.wire.canceled = true) :
    Candid h ((.ok a, h₁) : Except ε α × Host) := by
  refine ⟨hstays, ?_, ?_⟩
  · rintro e ⟨⟩
  · rintro e ⟨⟩

/-- A failure that has nothing to do with cancellation. -/
theorem of_error {e : ε} (hstays : h.wire.canceled = true → h₁.wire.canceled = true)
    (he : ∀ k, Failure.isA e k = false) : Candid h ((.error e, h₁) : Except ε α × Host) := by
  refine ⟨hstays, ?_, ?_⟩
  · rintro e' ⟨⟩ hc
    rw [he] at hc
    cases hc
  · rintro e' ⟨⟩
    exact he .apiError

/-- A failure of work that is canceled by then. -/
theorem of_canceled {e : ε} (hc : h₁.wire.canceled = true)
    (he : Failure.isA e .apiError = false) : Candid h ((.error e, h₁) : Except ε α × Host) := by
  refine ⟨fun _ => hc, fun _ _ _ => hc, ?_⟩
  rintro e' ⟨⟩
  exact he

/-- A failure of a part is a failure of the whole, of no kind of these two that it was not before.
-/
theorem wrap {e : ε} {e' : ε'} (hr : Candid h ((.error e, h₁) : Except ε α × Host))
    (hcanceled : Failure.isA e' .canceled = true → Failure.isA e .canceled = true)
    (hforeign : Failure.isA e' .apiError = true → Failure.isA e .apiError = true) :
    Candid h ((.error e', h₁) : Except ε' β × Host) := by
  refine ⟨hr.stays, ?_, ?_⟩
  · rintro e₁ ⟨⟩ hc
    exact hr.canceled e rfl (hcanceled hc)
  · rintro e₁ ⟨⟩
    rw [← Bool.not_eq_true]
    intro ha
    have hnone := hr.foreign e rfl
    rw [hforeign ha] at hnone
    cases hnone

theorem after (hstays : h.wire.canceled = true → h₁.wire.canceled = true) (hr : Candid h₁ r) :
    Candid h r :=
  ⟨fun hc => hr.stays (hstays hc), hr.canceled, hr.foreign⟩

/-- What is done to the rest of the world does not count. -/
theorem beside {x : Except ε α} {h₂ : Host} (hr : Candid h (x, h₁)) (hw : h₂.wire = h₁.wire) :
    Candid h (x, h₂) := by
  obtain ⟨hstays, hcanceled, hforeign⟩ := hr
  dsimp only at hstays hcanceled
  rw [← hw] at hstays hcanceled
  exact ⟨hstays, hcanceled, hforeign⟩

theorem map (hr : Candid h r) (f : α → β) : Candid h (r.1.map f, r.2) := by
  obtain ⟨e | a, h₁⟩ := r
  · exact hr.wrap id id
  · exact of_ok _ hr.stays

end Candid

end Candid

variable {ρ : Type} [Failure ρ] {send : Transport Host ρ}

/-- Sending over the network is candid, also when it does not listen to cancellation. -/
theorem plain_candid (listens : Bool) (r : Request) (h : Host) :
    Candid h (plain (ρ := ρ) listens r h) := by
  simp only [plain, HasWire.wire, HasWire.setWire, Wire.send]
  split_ifs with hstop
  · exact .of_canceled (Bool.and_eq_true_iff.mp hstop).2 rfl
  · cases h.wire.answers with
    | nil => exact .of_error id fun _ => rfl
    | cons a rest =>
      cases a with
      | reply reply => exact .of_ok _ id
      | failure m => exact .of_error id fun _ => rfl
      | cancel => exact .of_canceled rfl rfl

theorem readBody_candid (limit : Option Nat) (reply : Reply) (h : Host) :
    Candid h (readBody (ρ := ρ) limit reply h) := by
  have hwhole : Candid h (readBody (ρ := ρ) none reply h) := by
    simp only [readBody, HasWire.wire, HasWire.setWire, Wire.readBody]
    cases reply.ending with
    | complete => exact .of_ok _ id
    | fails m => exact .of_error id fun _ => rfl
    | cancels => exact .of_canceled rfl rfl
  cases limit with
  | none => exact hwhole
  | some n =>
    by_cases hlong : n ≤ reply.body.length
    · simp only [readBody, HasWire.wire, HasWire.setWire, Wire.readBody, if_pos hlong]
      exact .of_ok _ id
    · simpa only [readBody, HasWire.wire, Wire.readBody, if_neg hlong] using hwhole

theorem discard_stays (limit : Nat) (reply : Reply) {h : Host} (hc : h.wire.canceled = true) :
    (discard limit reply h).wire.canceled = true :=
  (readBody_candid (ρ := Empty) (some limit) reply h).stays hc

/-- Following redirects is as candid as sending one request. -/
theorem follow_candid (hsend : ∀ r h, Candid h (send r h)) (first : Request) (fuel : Nat)
    (withheld : Withheld) (r : Request) (h : Host) :
    Candid h (follow send first fuel withheld r h) := by
  induction fuel generalizing withheld r h with
  | zero => exact .of_error id fun _ => rfl
  | succ fuel ih =>
    have hsent := hsend (signed r) h
    rw [follow]
    generalize send (signed r) h = sent at hsent
    obtain ⟨f | reply, h₁⟩ := sent
    · exact hsent.wrap id id
    · have hskim := fun hc => discard_stays skimLimit reply (hsent.stays hc)
      dsimp only
      split
      · exact .of_ok _ hsent.stays
      · exact .of_ok _ hsent.stays
      · split
        · exact .of_error hsent.stays fun _ => rfl
        · split_ifs
          · exact .of_error hskim fun _ => rfl
          · exact (ih _ _ _).after hskim

theorem run_candid (hsend : ∀ r h, Candid h (send r h)) (r : Request) (h : Host) :
    Candid h (run send r h) :=
  follow_candid hsend r maxRedirects ⟨false, false⟩ r h

/-- A way to send requests that is candid about cancellation, and gives up when work is canceled. -/
structure Listening (send : Transport Host ρ) : Prop where
  candid : ∀ r h, Candid h (send r h)
  stops : ∀ r h, h.wire.canceled = true → ∃ f, (send r h).1 = .error f

theorem plain_listening : Listening (plain (ρ := ρ) true) where
  candid := plain_candid true
  stops r h hc := ⟨.canceled, by simp [plain, HasWire.wire, Wire.send, hc]⟩

/-- A client gives up with the first request of canceled work. -/
theorem Listening.run_stops (hsend : Listening send) (r : Request) {h : Host}
    (hc : h.wire.canceled = true) :
    ∃ e h', run send r h = (.error e, h') ∧ h'.wire.canceled = true := by
  obtain ⟨f, hf⟩ := hsend.stops (signed r) h hc
  have hstays := (hsend.candid (signed r) h).stays hc
  rw [run, maxRedirects, follow]
  generalize send (signed r) h = sent at hf hstays
  obtain ⟨result, h₁⟩ := sent
  obtain rfl : result = .error f := hf
  exact ⟨_, h₁, rfl, hstays⟩

end DocPull.Http
