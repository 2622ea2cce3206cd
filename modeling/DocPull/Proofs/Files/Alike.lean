import DocPull.Proofs.Files.AtomicWrite

/-!
# What a write looks at

A write looks at directories and at which places are taken, never into a file. So it comes to the
same in two trees that are alike, whatever is written.
-/
open DocPull.Files.Tree

namespace DocPull.Files

namespace Tree

/-- Both trees hold the same directories, and files in the same places. -/
def Alike (t u : Tree) : Prop :=
  ∀ l, u.get? l = t.get? l ∨
    ∃ m c m' c', t.get? l = some (.file m c) ∧ u.get? l = some (.file m' c')

namespace Alike

variable {t u : Tree}

theorem refl (t : Tree) : Alike t t := fun _ => .inl rfl

theorem walk_eq (h : Alike t u) (l : Location) (cs : List Bytes) :
    u.walk l cs = t.walk l cs := by
  induction cs generalizing l with
  | nil => rfl
  | cons c cs ih =>
    rw [walk, walk]
    rcases h l with hl | ⟨m, s, m', s', ht, hu⟩
    · simp only [hl, ih]
    · simp only [ht, hu]

theorem locate_eq (h : Alike t u) (path : Bytes) : u.locate path = t.locate path := by
  simp only [locate, h.walk_eq]

theorem isDir_eq (h : Alike t u) (path : Bytes) : u.isDir path = t.isDir path := by
  simp only [isDir, lookup, h.locate_eq, bind, Except.bind]
  cases t.locate path with
  | error f => rfl
  | ok l =>
    rcases h l with hl | ⟨m, s, m', s', ht, hu⟩
    · simp only [hl]
    · simp only [ht, hu, pure, Except.pure]

theorem mayChange_eq (h : Alike t u) (l : Location) :
    u.mayChange l = t.mayChange l := by
  rcases h l.dropLast with hl | ⟨m, s, m', s', ht, hu⟩
  · simp only [mayChange, hl]
  · simp only [mayChange, ht, hu]

theorem vacancy_eq (h : Alike t u) (path : Bytes) : u.vacancy path = t.vacancy path := by
  simp only [vacancy, h.locate_eq, h.mayChange_eq, bind, Except.bind]
  cases t.locate path with
  | error f => rfl
  | ok l =>
    rcases h l with hl | ⟨m, c, m', c', ht, hu⟩
    · simp only [hl]
    · simp only [ht, hu]

/-- A name leads to the same in both trees, or to a file in either. -/
theorem lookup_cases (h : Alike t u) (path : Bytes) :
    u.lookup path = t.lookup path ∨
      ∃ l m c m' c', t.lookup path = .ok (l, .file m c) ∧ u.lookup path = .ok (l, .file m' c') := by
  cases hl : t.locate path with
  | error f =>
    refine .inl ?_
    simp only [lookup, h.locate_eq, hl, bind, Except.bind]
  | ok l =>
    have hl' : u.locate path = .ok l := (h.locate_eq path).trans hl
    rcases h l with he | ⟨m, c, m', c', ht, hu⟩
    · refine .inl ?_
      simp only [lookup, hl, hl', he, bind, Except.bind]
    · exact .inr ⟨l, m, c, m', c', lookup_eq_ok.mpr ⟨hl, ht⟩, lookup_eq_ok.mpr ⟨hl', hu⟩⟩

/-- Trees stay alike when both get the same entry at a place, or a file each. -/
theorem put (h : Alike t u) (l : Location) {e e' : Entry}
    (he : e' = e ∨ ∃ m c m' c', e = .file m c ∧ e' = .file m' c') :
    Alike (t.put l e) (u.put l e') := by
  intro k
  by_cases hk : k = l
  · subst hk
    cases ha : isAnchor k with
    | true => exact .inl ((get?_anchor _ ha).trans (get?_anchor _ ha).symm)
    | false =>
      rw [get?_put_self t e ha, get?_put_self u e' ha]
      obtain rfl | ⟨m, c, m', c', rfl, rfl⟩ := he
      · exact .inl rfl
      · exact .inr ⟨m, c, m', c', rfl, rfl⟩
  · rw [get?_put_of_ne t e hk, get?_put_of_ne u e' hk]
    exact h k

end Alike

end Tree

/-- Two writes that come to the same, in trees that are alike and stay so. -/
structure Written.Alike {ε α : Type} (t u : Tree) (w v : Written ε α) : Prop where
  result : v.result = w.result
  final : (w.final t).Alike (v.final u)

theorem Written.final_append {ε ε' α β : Type} (w : Written ε α) (v : Written ε' β)
    (r : Except ε' β) (t : Tree) :
    (⟨w.trees ++ v.trees, r⟩ : Written ε' β).final t = v.final (w.final t) := by
  simp only [Written.final, List.getLastD_eq_getLast?, List.getLast?_append]
  cases v.trees.getLast? <;> rfl

section Alike

variable {t u : Tree}

theorem makeMissing_alike (h : t.Alike u) (dir : Bytes) (mode : Nat) :
    Written.Alike t u (makeMissing t dir mode) (makeMissing u dir mode) := by
  simp only [makeMissing, makeDir, h.vacancy_eq, h.isDir_eq]
  cases t.vacancy dir with
  | error f =>
    dsimp only
    split_ifs
    · exact ⟨rfl, h⟩
    · exact ⟨rfl, h⟩
  | ok l => exact ⟨rfl, h.put l (.inl rfl)⟩

theorem makeDirs_alike (mode fuel : Nat) (h : t.Alike u) (dir : Bytes) :
    Written.Alike t u (makeDirs mode fuel t dir) (makeDirs mode fuel u dir) := by
  induction fuel generalizing dir with
  | zero => exact ⟨rfl, h⟩
  | succ fuel ih =>
    rw [makeDirs, makeDirs]
    obtain hlook | ⟨l, m, c, m', c', ht, hu⟩ := h.lookup_cases dir
    · rw [hlook]
      split
      · exact ⟨rfl, h⟩
      · exact ⟨rfl, h⟩
      · cases parent? dir with
        | none => exact makeMissing_alike h dir mode
        | some above =>
          obtain ⟨hresult, hfirst⟩ := ih above
          have hlast := makeMissing_alike hfirst dir mode
          dsimp only
          rw [hresult]
          cases (makeDirs mode fuel t above).result with
          | error e => exact ⟨rfl, hfirst⟩
          | ok x =>
            refine ⟨hlast.result, ?_⟩
            rw [Written.final_append, Written.final_append]
            exact hlast.final
    · rw [ht, hu]
      exact ⟨rfl, h⟩

theorem freeName_eq_of_alike (h : t.Alike u) (dir base : Bytes) (digits : Nat → Bytes)
    (fuel attempt : Nat) :
    freeName u dir base digits fuel attempt = freeName t dir base digits fuel attempt := by
  induction fuel generalizing attempt with
  | zero => rfl
  | succ fuel ih =>
    rw [freeName, freeName, h.vacancy_eq, ih]

theorem temporaryName_eq_of_alike (h : t.Alike u) (path : Bytes) (digits : Nat → Bytes) :
    temporaryName u path digits = temporaryName t path digits := by
  simp only [temporaryName, freeName_eq_of_alike h]

/-- Whether a file may take another name, and why not, is the same in both trees. -/
theorem moveTo_eq_of_alike (h : t.Alike u) (l : Location) (file file' : Entry) (path : Bytes) :
    ((moveTo u l file' path).map fun _ => ()) = (moveTo t l file path).map fun _ => () := by
  simp only [moveTo, h.isDir_eq, h.locate_eq, h.mayChange_eq, bind, Except.bind, throw, throwThe,
    MonadExceptOf.throw, pure, Except.pure]
  split_ifs
  · rfl
  · cases t.locate path with
    | error f => rfl
    | ok target =>
      dsimp only
      split_ifs
      · rfl
      · rfl

theorem result_of_given (name path : Bytes) (x : Except Fault Tree) (moved : Tree → List Tree)
    (given : List Tree) :
    (match x.mapError (WriteError.rename name path) with
      | .ok u => ⟨moved u, .ok ()⟩
      | .error e => ⟨given, .error e⟩ : Written WriteError Unit).result =
    (x.map fun _ => ()).mapError (WriteError.rename name path) := by
  cases x with
  | error f => rfl
  | ok u => rfl

/-- What a write comes to, by its steps. -/
theorem writeFile_result (t : Tree) (path content : Bytes) (mode dirMode : Nat)
    (digits : Nat → Bytes) :
    (writeFile t path content mode dirMode digits).result =
      match (preparation t path dirMode).result with
      | .error e => .error (.directory (Path.dir path) e)
      | .ok _ =>
        match temporaryName (prepared t path dirMode) path digits with
        | .error e => .error (.temporary e)
        | .ok (name, l) =>
          ((moveTo (filled t path content mode dirMode l) l (.file (mode % 0o1000) content)
            path).map fun _ => ()).mapError (.rename name path) := by
  unfold writeFile writeFileOn prepared preparation
  dsimp only
  cases (makeDirs dirMode (Path.components (Path.dir path)).length t (Path.dir path)).result with
  | error e => rfl
  | ok x =>
    dsimp only
    cases temporaryName ((makeDirs dirMode (Path.components (Path.dir path)).length t
      (Path.dir path)).final t) path digits with
    | error e => rfl
    | ok found => exact result_of_given found.1 path _ _ _

/-- A write comes to the same in trees that are alike, whatever is written. -/
theorem writeFile_result_of_alike (h : t.Alike u) (path content content' : Bytes)
    (mode dirMode : Nat) (digits : Nat → Bytes) :
    (writeFile u path content' mode dirMode digits).result =
      (writeFile t path content mode dirMode digits).result := by
  obtain ⟨hdirs, hprepared⟩ : Written.Alike t u (preparation t path dirMode)
      (preparation u path dirMode) := makeDirs_alike _ _ h _
  have hname := temporaryName_eq_of_alike hprepared path digits
  have hfilled : ∀ l, (filled t path content mode dirMode l).Alike
      (filled u path content' mode dirMode l) := fun l =>
    ((hprepared.put l (.inl rfl)).put l (.inl rfl)).put l (.inr ⟨_, _, _, _, rfl, rfl⟩)
  rw [writeFile_result, writeFile_result, hdirs]
  cases (preparation t path dirMode).result with
  | error e => rfl
  | ok x =>
    dsimp only
    unfold prepared
    rw [hname]
    cases temporaryName ((preparation t path dirMode).final t) path digits with
    | error e => rfl
    | ok found =>
      obtain ⟨name, l⟩ := found
      dsimp only
      rw [moveTo_eq_of_alike (hfilled l)]

/-- Whether a write succeeds does not depend on what is written. -/
theorem writeFile_ok_of_ok {path data : Bytes} {mode dirMode : Nat} {digits : Nat → Bytes}
    (h : (writeFile t path data mode dirMode digits).result = .ok ()) (content : Bytes) :
    (writeFile t path content mode dirMode digits).result = .ok () :=
  (writeFile_result_of_alike (.refl t) path data content mode dirMode digits).trans h

end Alike

end DocPull.Files
