import DocPull.Proofs.Files.AtomicWrite

/-!
# What writes leave alone

A write to some names keeps every directory. Whatever differs after it is a file that one of the
names leads to, or a new directory that is the directory of one of the names or above it. This holds
of single writes, whether they succeed or fail, and of one write after the other.
-/
open DocPull.Files.Tree

namespace DocPull.Files

namespace Tree

/-- A new directory that a write to one of some names needs: the directory of the name or one above
it. -/
def MadeFor (paths : List Bytes) (t u : Tree) (l : Location) : Prop :=
  t.get? l = none ∧ (∃ mode, u.get? l = some (.dir mode)) ∧
    ∃ path ∈ paths, ∃ outer, Encloses outer (Path.dir path) ∧ u.locate outer = .ok l

/-- A file that one of some names leads to. -/
def IsNamed (paths : List Bytes) (u : Tree) (l : Location) : Prop :=
  (∃ path ∈ paths, u.locate path = .ok l) ∧ ∃ mode content, u.get? l = some (.file mode content)

/-- The second tree has all directories of the first one, and differs from it in the files that some
names lead to and in directories made for them only. -/
structure Confined (paths : List Bytes) (t u : Tree) : Prop where
  dirs : ∀ l mode, t.get? l = some (.dir mode) → u.get? l = some (.dir mode)
  rest : ∀ l, u.get? l = t.get? l ∨ IsNamed paths u l ∨ MadeFor paths t u l

namespace Confined

variable {paths more : List Bytes} {t u v : Tree}

theorem refl (paths : List Bytes) (t : Tree) : Confined paths t t :=
  ⟨fun _ _ h => h, fun _ => .inl rfl⟩

theorem mono (h : Confined paths t u) (hsub : paths ⊆ more) : Confined more t u := by
  refine ⟨h.dirs, fun l => ?_⟩
  rcases h.rest l with hsame | ⟨⟨path, hpath, hloc⟩, hfile⟩ | ⟨hnone, hdir, path, hpath, houter⟩
  · exact .inl hsame
  · exact .inr (.inl ⟨⟨path, hsub hpath, hloc⟩, hfile⟩)
  · exact .inr (.inr ⟨hnone, hdir, path, hsub hpath, houter⟩)

/-- What a name leads to it leads to later. -/
theorem locate (h : Confined paths t u) {path : Bytes} {l : Location}
    (hl : t.locate path = .ok l) : u.locate path = .ok l :=
  locate_of_dirs h.dirs path l hl

theorem trans (h : Confined paths t u) (h' : Confined paths u v) : Confined paths t v := by
  refine ⟨fun l mode hl => h'.dirs l mode (h.dirs l mode hl), fun l => ?_⟩
  rcases h.rest l with hsame | ⟨⟨path, hpath, hloc⟩, mode, content, hfile⟩ |
    ⟨hnone, ⟨mode, hdir⟩, path, hpath, outer, henc, hloc⟩
  · rcases h'.rest l with hsame' | hnamed | ⟨hnone, hdir, houter⟩
    · exact .inl (hsame'.trans hsame)
    · exact .inr (.inl hnamed)
    · exact .inr (.inr ⟨hsame.symm.trans hnone, hdir, houter⟩)
  · -- No directory is made where the first write left a file.
    rcases h'.rest l with hsame' | hnamed | ⟨hnone, -⟩
    · exact .inr (.inl ⟨⟨path, hpath, h'.locate hloc⟩, mode, content, hsame'.trans hfile⟩)
    · exact .inr (.inl hnamed)
    · rw [hfile] at hnone
      cases hnone
  · exact .inr (.inr ⟨hnone, ⟨mode, h'.dirs l mode hdir⟩, path, hpath, outer, henc, h'.locate hloc⟩)

end Confined

theorem Makes.confined {path : Bytes} {mode : Nat} {t u : Tree}
    (h : Makes (Path.dir path) mode t u) : Confined [path] t u := by
  refine ⟨fun _ _ hl => h.addsDirs.kept hl, fun l => ?_⟩
  rcases h l with hsame | ⟨hnone, hdir, houter⟩
  · exact .inl hsame
  · exact .inr (.inr ⟨hnone, ⟨_, hdir⟩, path, by simp, houter⟩)

end Tree

/-- A write touches its target and makes directories for it, however it ends. -/
theorem writeFile_confined (refused : Option Refusal) (t : Tree) (path content : Bytes)
    (mode dirMode : Nat) (digits : Nat → Bytes) :
    Confined [path] t ((writeFileOn refused t path content mode dirMode digits).final t) := by
  obtain ⟨e, he, _⟩ | ⟨name, l, hl, ⟨e, he, _⟩ | ⟨-, -, moved, hm, hf⟩⟩ :=
    writeFile_cases refused t path content mode dirMode digits
  · exact (writeFile_makes he).confined
  · exact (writeFile_makes he).confined
  · obtain ⟨target, hloc, hhere, helse, -, hnd⟩ := moveTo_filled (temporaryName_vacant hl) hm
    have hmoved : Confined [path] (prepared t path dirMode) moved := by
      constructor
      · intro k m hk
        rw [helse k fun hkt => hnd m (hkt ▸ hk), hk]
      · intro k
        by_cases hkt : k = target
        · subst hkt
          exact .inr (.inl ⟨⟨path, by simp, hloc⟩, _, _, hhere⟩)
        · exact .inl (helse k hkt)
    rw [Written.final, hf, List.getLastD_concat]
    exact (prepared_makes t path dirMode).confined.trans hmoved

end DocPull.Files
