import DocPull.Host
import Mathlib.Tactic

/-!
# What a client does to the world

Sending requests and reading bodies touch the network only, and the record of requests only grows.
An answer that is no redirect is handed out as it is.
-/
namespace DocPull.Http

variable {ρ : Type}

/-- Nothing but the network changes, and the requests made before stay on record. -/
def OnlyWire (h h' : Host) : Prop :=
  ∃ w : Wire, h' = { h with wire := w } ∧ h.wire.sent <:+ w.sent

namespace OnlyWire

theorem refl (h : Host) : OnlyWire h h := ⟨h.wire, rfl, List.suffix_refl _⟩

theorem trans {h h₁ h₂ : Host} (a : OnlyWire h h₁) (b : OnlyWire h₁ h₂) : OnlyWire h h₂ := by
  obtain ⟨w₁, rfl, hs₁⟩ := a
  obtain ⟨w₂, rfl, hs₂⟩ := b
  exact ⟨w₂, rfl, hs₁.trans hs₂⟩

theorem sent {h h' : Host} (a : OnlyWire h h') : h.wire.sent <:+ h'.wire.sent := by
  obtain ⟨w, rfl, hs⟩ := a
  exact hs

theorem tree {h h' : Host} (a : OnlyWire h h') : h'.tree = h.tree := by
  obtain ⟨w, rfl, -⟩ := a
  rfl

theorem now {h h' : Host} (a : OnlyWire h h') : h'.now = h.now := by
  obtain ⟨w, rfl, -⟩ := a
  rfl

end OnlyWire

theorem Wire.readBody_sent (limit : Option Nat) (r : Reply) (w : Wire) :
    (w.readBody (ρ := ρ) limit r).2.sent = w.sent := by
  cases limit with
  | none =>
    rw [Wire.readBody]
    cases r.ending <;> rfl
  | some n =>
    simp only [Wire.readBody]
    split_ifs
    · rfl
    · cases r.ending <;> rfl

/-- A reply that is no redirect is handed out. -/
theorem run_of_send {σ : Type} [HasWire σ] {send : Transport σ ρ} {r : Request} {w w' : σ}
    {reply : Reply} (hs : send (signed r) w = (.ok reply, w'))
    (hr : ∀ method, redirected? method reply.status = none) : run send r w = (.ok reply, w') := by
  rw [run, maxRedirects, follow, hs]
  simp only [hr]

theorem signed_range (r : Request) : (signed r).headers.range = r.headers.range := by
  simp only [signed]
  split <;> rfl

end DocPull.Http
