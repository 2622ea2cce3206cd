import DocPull.Files.AtomicWrite
import DocPull.Proofs.Files.Tree
import DocPull.Proofs.Outcome

/-!
# What a write leaves behind

A write that fails leaves every file as it was; it may have added directories on the way. A write
that succeeds leaves the new content at the place its name leads to, and nothing else differs
except for added directories.
-/
open DocPull.Files.Tree

namespace DocPull.Files

namespace Tree

/-- The second tree has a given entry at a location, and elsewhere it is the first one with some
directories added. -/
structure Replaces (t u : Tree) (l : Location) (e : Entry) : Prop where
  here : u.get? l = some e
  elsewhere : ∀ k, k ≠ l → u.get? k = t.get? k ∨ t.get? k = none ∧ ∃ m, u.get? k = some (.dir m)

end Tree

/-- What holds at the start and in every intermediate tree of a write holds in the end. -/
theorem Written.final_of_trees {ε α : Type} {w : Written ε α} {t : Tree} {P : Tree → Prop}
    (ht : P t) (h : ∀ u ∈ w.trees, P u) : P (w.final t) := by
  rcases List.eq_nil_or_concat w.trees with hw | ⟨us, u, hw⟩
  · rw [Written.final, hw]
    exact ht
  · have hu : w.final t = u := by simp [Written.final, hw]
    rw [hu]
    exact h u (by simp [hw])

/-- Whether a name is that of a directory or of one above it, as far as the names tell. -/
inductive Encloses (outer : Bytes) : Bytes → Prop
  | self : Encloses outer outer
  | above {dir upper : Bytes} (hparent : parent? dir = some upper) (h : Encloses outer upper) :
    Encloses outer dir

namespace Tree

/-- The second tree is the first one with some directories of a mode added, each of which is a given
one or above it. -/
def Makes (dir : Bytes) (mode : Nat) (t u : Tree) : Prop :=
  ∀ l, u.get? l = t.get? l ∨ t.get? l = none ∧ u.get? l = some (.dir (masked mode)) ∧
    ∃ outer, Encloses outer dir ∧ u.locate outer = .ok l

namespace Makes

variable {dir upper : Bytes} {mode : Nat} {t u v : Tree}

theorem addsDirs (h : Makes dir mode t u) : AddsDirs t u := by
  intro l
  rcases h l with hl | ⟨hn, hd, -⟩
  · exact .inl hl
  · exact .inr ⟨hn, _, hd⟩

theorem refl (dir : Bytes) (mode : Nat) (t : Tree) : Makes dir mode t t := fun _ => .inl rfl

theorem trans (h : Makes dir mode t u) (h' : Makes dir mode u v) : Makes dir mode t v := by
  intro l
  rcases h' l with hl' | ⟨hn', hd', houter⟩
  · rcases h l with hl | ⟨hn, hd, outer, henc, hloc⟩
    · exact .inl (hl'.trans hl)
    · exact .inr ⟨hn, hl'.trans hd, outer, henc,
        h'.addsDirs.locate hloc⟩
  · exact .inr ⟨h.addsDirs.none_of_none hn', hd', houter⟩

theorem below (hparent : parent? dir = some upper) (h : Makes upper mode t u) :
    Makes dir mode t u := by
  intro l
  rcases h l with hl | ⟨hn, hd, outer, henc, hloc⟩
  · exact .inl hl
  · exact .inr ⟨hn, hd, outer, .above hparent henc, hloc⟩

end Makes

end Tree

theorem makeMissing_makes (t : Tree) (dir : Bytes) (mode : Nat) :
    ∀ u ∈ (makeMissing t dir mode).trees, Makes dir mode t u := by
  intro u hu
  simp only [makeMissing, makeDir] at hu
  cases hv : t.vacancy dir with
  | error f =>
    simp only [hv] at hu
    split_ifs at hu <;> simp at hu
  | ok l =>
    simp only [hv, List.mem_singleton] at hu
    subst hu
    have hn := get?_of_vacancy hv
    have hadds := AddsDirs.put (masked mode) hn
    intro k
    by_cases hk : k = l
    · subst hk
      refine .inr ⟨hn, get?_put_self t _ (not_anchor_of_none hn), dir, .self, ?_⟩
      exact hadds.locate (locate_of_vacancy hv)
    · exact .inl (get?_put_of_ne t _ hk)

/-- Making a directory with those above it adds such directories and nothing else, at every step. -/
theorem makeDirs_makes (mode fuel : Nat) (t : Tree) (dir : Bytes) :
    ∀ u ∈ (makeDirs mode fuel t dir).trees, Makes dir mode t u := by
  induction fuel generalizing dir with
  | zero => simp [makeDirs]
  | succ fuel ih =>
    intro u hu
    rw [makeDirs] at hu
    split at hu
    · simp at hu
    · simp at hu
    · split at hu
      · exact makeMissing_makes t dir mode u hu
      · rename_i upper hparent
        dsimp only at hu
        split at hu
        · exact (ih upper u hu).below hparent
        · have hfirst := Written.final_of_trees (P := Makes upper mode t) (.refl _ _ t) (ih upper)
          rcases List.mem_append.mp hu with hu | hu
          · exact (ih upper u hu).below hparent
          · exact (hfirst.below hparent).trans (makeMissing_makes _ dir mode u hu)

/-- The name of the entry under which the content of a target is prepared. -/
def temporaryEntry (path digits : Bytes) : Bytes :=
  text [".", Path.base path, "-", digits, ".tmp"]

theorem freeName_ok {t : Tree} {dir base : Bytes} {digits : Nat → Bytes} {fuel attempt : Nat}
    {name : Bytes} {l : Location} (h : freeName t dir base digits fuel attempt = .ok (name, l)) :
    ∃ i, name = Path.inside dir (text [".", base, "-", digits i, ".tmp"]) ∧
      t.vacancy name = .ok l := by
  induction fuel generalizing attempt with
  | zero => simp [freeName] at h
  | succ fuel ih =>
    rw [freeName] at h
    split at h
    · rename_i k hk
      cases h
      exact ⟨attempt, rfl, hk⟩
    · exact ih h
    · cases h

/-- A temporary file gets a free name in the directory of the target. -/
theorem temporaryName_ok {t : Tree} {path : Bytes} {digits : Nat → Bytes} {name : Bytes}
    {l : Location} (h : temporaryName t path digits = .ok (name, l)) :
    byte '/' ∉ Path.base path ∧
      ∃ i, name = Path.inside (Path.dir path) (temporaryEntry path (digits i)) ∧
        t.vacancy name = .ok l := by
  simp only [temporaryName] at h
  split_ifs at h with hslash
  exact ⟨by simpa using hslash, freeName_ok h⟩

theorem temporaryName_vacant {t : Tree} {path : Bytes} {digits : Nat → Bytes} {name : Bytes}
    {l : Location} (h : temporaryName t path digits = .ok (name, l)) : t.get? l = none := by
  obtain ⟨-, i, -, hvacant⟩ := temporaryName_ok h
  exact get?_of_vacancy hvacant

/-- A file that took another name stands at a place that was no directory, in one that may be
changed. -/
theorem moveTo_ok {t u : Tree} {l : Location} {file : Entry} {path : Bytes}
    (h : moveTo t l file path = .ok u) :
    ∃ target, t.isDir path = false ∧ t.locate path = .ok target ∧ t.mayChange target = true ∧
      u = (t.erase l).put target file := by
  simp only [moveTo, bind, Except.bind, throw, throwThe, MonadExceptOf.throw, pure,
    Except.pure] at h
  by_cases hd : t.isDir path = true
  · simp [hd] at h
  · rw [Bool.not_eq_true] at hd
    cases hk : t.locate path with
    | error f => simp [hd, hk] at h
    | ok target =>
      by_cases hm : t.mayChange target = true
      · simp only [hd, hk, hm] at h
        simp only [Bool.false_eq_true, if_false, if_true, Except.ok.injEq] at h
        exact ⟨target, hd, rfl, hm, h.symm⟩
      · simp [hd, hk, hm] at h

section Write

variable {refused : Option Refusal} {t : Tree} {path content : Bytes} {mode dirMode : Nat}
  {digits : Nat → Bytes}

/-- The directories that a write makes. -/
def preparation (t : Tree) (path : Bytes) (dirMode : Nat) : Written PathError Unit :=
  makeDirs dirMode (Path.components (Path.dir path)).length t (Path.dir path)

/-- The tree in which the temporary file of a write is made. -/
def prepared (t : Tree) (path : Bytes) (dirMode : Nat) : Tree :=
  (preparation t path dirMode).final t

theorem prepared_makes (t : Tree) (path : Bytes) (dirMode : Nat) :
    Makes (Path.dir path) dirMode t (prepared t path dirMode) :=
  Written.final_of_trees (.refl _ _ t) (makeDirs_makes _ _ _ _)

theorem prepared_addsDirs (t : Tree) (path : Bytes) (dirMode : Nat) :
    AddsDirs t (prepared t path dirMode) :=
  (prepared_makes t path dirMode).addsDirs

/-- The prepared tree with a file of the final mode and content under its temporary name. -/
def filled (t : Tree) (path content : Bytes) (mode dirMode : Nat) (l : Location) : Tree :=
  (((prepared t path dirMode).put l (.file 0o600 [])).put l (.file (mode % 0o1000) [])).put l
    (.file (mode % 0o1000) content)

theorem get?_filled_of_ne {l k : Location} (h : k ≠ l) :
    (filled t path content mode dirMode l).get? k = (prepared t path dirMode).get? k := by
  simp only [filled, get?_put_of_ne _ _ h]

theorem get?_filled_self {l : Location} (h : (prepared t path dirMode).get? l = none) :
    (filled t path content mode dirMode l).get? l = some (.file (mode % 0o1000) content) :=
  get?_put_self _ _ (not_anchor_of_none h)

/-- While a temporary file is filled nothing else changes. -/
theorem fill_elsewhere {p u : Tree} {l k : Location} {perm : Nat}
    (hu : u ∈ (fill refused p l perm content).trees) (hk : k ≠ l) : u.get? k = p.get? k := by
  unfold fill at hu
  split at hu
  · fin_cases hu <;> simp only [get?_put_of_ne _ _ hk]
  · split at hu <;> fin_cases hu <;> simp only [get?_put_of_ne _ _ hk]

/-- A temporary file is a file at every step of its filling. -/
theorem fill_self {p u : Tree} {l : Location} {perm : Nat} (hl : isAnchor l = false)
    (hu : u ∈ (fill refused p l perm content).trees) :
    ∃ m c, u.get? l = some (.file m c) := by
  unfold fill at hu
  split at hu
  · fin_cases hu <;> exact ⟨_, _, get?_put_self _ _ hl⟩
  · split at hu <;> fin_cases hu <;> exact ⟨_, _, get?_put_self _ _ hl⟩

/-- Everything a write can come to: no file is ever made, or a fresh temporary file is filled and
then removed, or it takes the target's name. -/
theorem writeFile_cases (refused : Option Refusal) (t : Tree) (path content : Bytes)
    (mode dirMode : Nat) (digits : Nat → Bytes) :
    let w := writeFileOn refused t path content mode dirMode digits
    let dirs := (preparation t path dirMode).trees
    let p := prepared t path dirMode
    (∃ e, w.result = .error e ∧ w.trees = dirs) ∨
    ∃ name l, temporaryName p path digits = .ok (name, l) ∧
      ((∃ e, w.result = .error e ∧
          w.trees = dirs ++ (fill refused p l (mode % 0o1000) content).trees ++
            [((fill refused p l (mode % 0o1000) content).final p).erase l]) ∨
        w.result = .ok () ∧ refused = none ∧
          ∃ moved, moveTo (filled t path content mode dirMode l) l
              (.file (mode % 0o1000) content) path = .ok moved ∧
            w.trees = dirs ++ (fill refused p l (mode % 0o1000) content).trees ++ [moved]) := by
  simp only [writeFileOn]
  split
  · rename_i e _
    exact .inl ⟨_, rfl, rfl⟩
  · split
    · exact .inl ⟨_, rfl, rfl⟩
    · rename_i name l hl
      refine .inr ⟨name, l, hl, ?_⟩
      split
      · rename_i moved hgiven
        split at hgiven
        · cases hgiven
        · rename_i hfilled
          have hnone : refused = none := by
            cases refused with
            | none => rfl
            | some r =>
              simp only [fill] at hfilled
              split at hfilled <;> cases hfilled
          subst hnone
          exact .inr ⟨rfl, rfl, moved, Outcome.mapError_eq_ok.mp hgiven, rfl⟩
      · exact .inl ⟨_, rfl, rfl⟩

/-- The tree after a temporary file was filled and removed is the one before, at every place. -/
theorem get?_fill_erase {p : Tree} {l : Location} {perm : Nat} (hl : p.get? l = none)
    (k : Location) : (((fill refused p l perm content).final p).erase l).get? k = p.get? k := by
  by_cases hk : k = l
  · subst hk
    rw [get?_erase_self _ (not_anchor_of_none hl), hl]
  · rw [get?_erase_of_ne _ hk]
    exact Written.final_of_trees (P := fun u => u.get? k = p.get? k) rfl
      fun u hu => fill_elsewhere hu hk

/-- A failed write leaves directories behind at most: the one of its target and those above it. -/
theorem writeFile_makes {e : WriteError}
    (h : (writeFileOn refused t path content mode dirMode digits).result = .error e) :
    Makes (Path.dir path) dirMode t
      ((writeFileOn refused t path content mode dirMode digits).final t) := by
  have hp := prepared_makes t path dirMode
  obtain ⟨_, _, hf⟩ | ⟨name, l, hl, ⟨_, _, hf⟩ | ⟨hok, _⟩⟩ :=
    writeFile_cases refused t path content mode dirMode digits
  · rw [Written.final, hf]
    exact hp
  · rw [Written.final, hf, List.getLastD_concat]
    exact hp.trans fun k => .inl (get?_fill_erase (temporaryName_vacant hl) k)
  · rw [hok] at h
    cases h

/-- A failed write leaves every file as it was. -/
theorem writeFile_error {e : WriteError}
    (h : (writeFileOn refused t path content mode dirMode digits).result = .error e) :
    AddsDirs t ((writeFileOn refused t path content mode dirMode digits).final t) :=
  (writeFile_makes h).addsDirs

/-- The file that took the target's name is an entry of a directory, and nothing else differs from
the prepared tree. -/
theorem moveTo_filled {l : Location} {moved : Tree} (hl : (prepared t path dirMode).get? l = none)
    (hm : moveTo (filled t path content mode dirMode l) l (.file (mode % 0o1000) content) path =
      .ok moved) :
    ∃ target, moved.locate path = .ok target ∧
      moved.get? target = some (.file (mode % 0o1000) content) ∧
      (∀ k, k ≠ target → moved.get? k = (prepared t path dirMode).get? k) ∧
      (∃ m, (prepared t path dirMode).get? target.dropLast = some (.dir m)) ∧
      ∀ m, (prepared t path dirMode).get? target ≠ some (.dir m) := by
  obtain ⟨target, hd, hloc, hchange, hu⟩ := moveTo_ok hm
  have hdirs : ∀ k m, (filled t path content mode dirMode l).get? k = some (.dir m) → k ≠ l := by
    rintro k m hk rfl
    rw [get?_filled_self hl] at hk
    cases hk
  -- The target is neither a directory nor passed on the way to itself.
  have hnd : ∀ m, (filled t path content mode dirMode l).get? target ≠ some (.dir m) := by
    intro m hm
    rw [isDir_of_dir hloc hm] at hd
    cases hd
  have hna : isAnchor target = false := by
    by_contra ha
    exact hnd _ (get?_anchor _ (by simpa using ha))
  refine ⟨target, ?_, ?_, ?_, ?_, ?_⟩
  · refine locate_of_dirs ?_ path target hloc
    intro k m hk
    have hkt : k ≠ target := fun he => hnd m (he ▸ hk)
    rw [hu, get?_put_of_ne _ _ hkt, get?_erase_of_ne _ (hdirs k m hk)]
    exact hk
  · rw [hu]
    exact get?_put_self _ _ hna
  · intro k hk
    rw [hu, get?_put_of_ne _ _ hk]
    by_cases hkl : k = l
    · subst hkl
      rw [get?_erase_self _ (not_anchor_of_none hl), hl]
    · rw [get?_erase_of_ne _ hkl, get?_filled_of_ne hkl]
  · obtain ⟨m, hdir, -⟩ := dir_of_mayChange hchange
    rw [get?_filled_of_ne (hdirs _ m hdir)] at hdir
    exact ⟨m, hdir⟩
  · intro m hdir
    have hne : target ≠ l := by
      rintro rfl
      rw [hl] at hdir
      cases hdir
    rw [← get?_filled_of_ne hne] at hdir
    exact hnd m hdir

/-- A finished write leaves the content, in a file of the given mode, where its name leads to. -/
theorem writeFile_ok
    (h : (writeFileOn refused t path content mode dirMode digits).result = .ok ()) :
    ∃ target,
      ((writeFileOn refused t path content mode dirMode digits).final t).locate path = .ok target ∧
      Replaces t ((writeFileOn refused t path content mode dirMode digits).final t) target
        (.file (mode % 0o1000) content) := by
  obtain ⟨_, he, _⟩ | ⟨name, l, hl, ⟨_, he, _⟩ | ⟨_, -, moved, hm, hf⟩⟩ :=
    writeFile_cases refused t path content mode dirMode digits
  · rw [he] at h
    cases h
  · rw [he] at h
    cases h
  · obtain ⟨target, hloc, hhere, helse, -⟩ := moveTo_filled (temporaryName_vacant hl) hm
    rw [Written.final, hf, List.getLastD_concat]
    refine ⟨target, hloc, hhere, ?_⟩
    intro k hk
    rw [helse k hk]
    exact prepared_addsDirs t path dirMode k

end Write

end DocPull.Files
