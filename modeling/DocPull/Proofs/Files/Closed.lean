import DocPull.Proofs.Files.Place

/-!
# Closed trees

A tree is closed when every entry is in a directory. Every operation keeps a tree closed. In a
closed tree everything on the way to an entry is a directory, and a name that ends in dots or in a
slash leads to a directory, so that whatever else a name means is an entry of the name's own
directory.
-/
open DocPull.Files.Tree

namespace DocPull.Files

namespace Tree

/-- A walk that arrives does so where the components alone lead to. -/
theorem walk_eq_foldl {t : Tree} {l k : Location} {cs : List Bytes} (h : t.walk l cs = .ok k) :
    k = cs.foldl stepTo l := by
  induction cs generalizing l with
  | nil =>
    simp only [walk, Except.ok.injEq] at h
    exact h.symm
  | cons c cs ih =>
    rw [walk] at h
    split at h
    · cases h
    · cases h
    · rw [List.foldl_cons, stepTo]
      split_ifs at h ⊢
      · exact ih h
      · exact ih h
      · exact ih h

/-- Every step of a walk starts in a directory that may be searched. -/
theorem walk_concat {t : Tree} {l k : Location} {cs : List Bytes} {c : Bytes}
    (h : t.walk l (cs ++ [c]) = .ok k) :
    ∃ m mode, t.walk l cs = .ok m ∧ t.get? m = some (.dir mode) ∧
      allows mode ownerSearch = true ∧ k = stepTo m c := by
  induction cs generalizing l with
  | nil =>
    have hk := walk_eq_foldl h
    rw [List.nil_append, walk] at h
    split at h
    · cases h
    · cases h
    · rename_i mode hmode
      refine ⟨l, mode, rfl, hmode, ?_, hk⟩
      split_ifs at h with hsearch <;> simpa using hsearch
  | cons d cs ih =>
    rw [List.cons_append, walk] at h
    split at h
    · cases h
    · cases h
    · rename_i mode hmode
      simp only [walk, hmode]
      split_ifs at h ⊢
      · exact ih h
      · exact ih h
      · exact ih h

theorem walk_append {t : Tree} {l m : Location} {cs : List Bytes} (ds : List Bytes)
    (h : t.walk l cs = .ok m) : t.walk l (cs ++ ds) = t.walk m ds := by
  induction cs generalizing l with
  | nil =>
    simp only [walk, Except.ok.injEq] at h
    rw [List.nil_append, h]
  | cons c cs ih =>
    rw [walk] at h
    rw [List.cons_append, walk]
    split at h
    · cases h
    · cases h
    · split_ifs at h ⊢
      · exact ih h
      · exact ih h
      · exact ih h

/-- A slash at the end is followed like a dot. -/
theorem steps_eq (path : Bytes) :
    steps path = named path ∨ steps path = named path ++ [utf8 "."] := by
  unfold steps
  split
  · exact .inr rfl
  · exact .inl rfl

theorem steps_slash (before : Bytes) :
    steps (before ++ [byte '/']) = named (before ++ [byte '/']) ++ [utf8 "."] :=
  if_pos (Bytes.endsWith_slash_iff.mpr ⟨before, rfl⟩)

theorem locate_ok {t : Tree} {path : Bytes} {l : Location} (h : t.locate path = .ok l) :
    path ≠ [] ∧ t.walk (start path) (steps path) = .ok l := by
  unfold locate at h
  split_ifs at h with _ hne
  exact ⟨hne, h⟩

/-- A name that leads somewhere leads to its place. -/
theorem locate_eq_place {t : Tree} {path : Bytes} {l : Location} (h : t.locate path = .ok l) :
    l = place path := by
  rw [walk_eq_foldl (locate_ok h).2, place]
  rcases steps_eq path with hsteps | hsteps
  · rw [hsteps]
  · rw [hsteps, List.foldl_append, List.foldl_cons, List.foldl_nil, stepTo_dot]

theorem steps_inside {dir name : Bytes} (hname : IsEntryName name) :
    steps (Path.inside dir name) = named dir ++ [name] := by
  have hends : ¬Bytes.endsWith (Path.inside dir name) (utf8 "/") = true := by
    intro hends
    obtain ⟨before, hbefore⟩ := Bytes.endsWith_slash_iff.mp hends
    obtain ⟨between, hinside⟩ := inside_eq_append dir name
    have hlast : (byte '/') ∈ name.getLast? := by
      have := congrArg List.getLast? (hinside.symm.trans hbefore)
      rwa [List.getLast?_append_of_ne_nil _ hname.ne_nil, List.getLast?_concat] at this
    exact hname.no_slash (List.mem_of_mem_getLast? hlast)
  rw [← named_inside hname]
  exact if_neg hends

/-- A name inside a directory leads to an entry of that directory. -/
theorem locate_inside {t : Tree} {dir name : Bytes} {l : Location} (hdir : dir ≠ [])
    (hname : IsEntryName name) (h : t.locate (Path.inside dir name) = .ok l) :
    ∃ m mode, t.locate dir = .ok m ∧ t.get? m = some (.dir mode) ∧ l = m ++ [name] := by
  obtain ⟨between, hinside⟩ := inside_eq_append dir name
  unfold locate at h ⊢
  split_ifs at h with hzero _ hlong
  rw [start_inside hdir, steps_inside hname] at h
  obtain ⟨m, mode, hm, hmode, hsearch, rfl⟩ := walk_concat h
  refine ⟨m, mode, ?_, hmode, stepTo_entry m hname⟩
  have hzero' : ¬dir.contains 0 = true := by
    intro hmem
    rw [hinside] at hzero
    exact hzero (by simpa using .inl (by simpa using hmem))
  have hlong' : ¬maxPath < dir.length := by
    rw [hinside, List.length_append, List.length_append] at hlong
    omega
  rw [if_neg hzero', if_neg hdir, if_neg hlong']
  rcases steps_eq dir with hsteps | hsteps
  · rw [hsteps, hm]
  · rw [hsteps, walk_append _ hm]
    simp [walk, hmode, hsearch]

/-- Every entry is in a directory. -/
def Closed (t : Tree) : Prop :=
  ∀ l e, isAnchor l = false → t.get? l = some e → ∃ mode, t.get? l.dropLast = some (.dir mode)

namespace Closed

variable {t : Tree}

theorem above (h : Closed t) {l : Location} {mode : Nat} (hl : t.get? l = some (.dir mode)) :
    ∃ mode, t.get? (above l) = some (.dir mode) := by
  rw [Files.above]
  split_ifs with hnil hanchor
  · exact ⟨_, get?_anchor t rfl⟩
  · exact ⟨mode, hl⟩
  · exact h l _ (by simpa using hanchor) hl

/-- Everything on the way to an entry is a directory. -/
theorem dir_of_prefix (h : Closed t) {l k : Location} {e : Entry} (hk : t.get? k = some e)
    (hlk : l <+: k) (hne : l ≠ k) : ∃ mode, t.get? l = some (.dir mode) := by
  induction k using List.reverseRecOn generalizing e with
  | nil => exact absurd (List.prefix_nil.mp hlk) hne
  | append_singleton k c ih =>
    have hl : l <+: k := (List.prefix_concat_iff.mp hlk).resolve_left hne
    by_cases hanchor : isAnchor (k ++ [c]) = true
    · -- Only the working directory is above an anchor.
      have hk : k = [] := by
        simp only [isAnchor, root, outside, Bool.or_eq_true, beq_iff_eq] at hanchor
        rcases hanchor with (hnil | hroot) | hout
        · simp at hnil
        · simpa using congrArg List.length hroot
        · simpa using congrArg List.length hout
      rw [hk, List.prefix_nil] at hl
      exact ⟨_, get?_anchor t (by rw [hl]; rfl)⟩
    · obtain ⟨mode, hmode⟩ := h _ _ (by simpa using hanchor) hk
      rw [List.dropLast_concat] at hmode
      by_cases hlk : l = k
      · exact ⟨mode, hlk ▸ hmode⟩
      · exact ih hmode hl hlk

/-- Dots lead to directories. -/
theorem dir_of_dots (h : Closed t) {l k : Location} {cs : List Bytes} {c : Bytes}
    (hw : t.walk l (cs ++ [c]) = .ok k) (hc : c = utf8 "." ∨ c = utf8 "..") :
    ∃ mode, t.get? k = some (.dir mode) := by
  obtain ⟨m, mode, -, hm, -, rfl⟩ := walk_concat hw
  rcases hc with rfl | rfl
  · rw [stepTo_dot]
    exact ⟨mode, hm⟩
  · rw [stepTo_dots]
    exact h.above hm

/-- Whatever a name means that is no directory, it is an entry of the name's directory. -/
theorem place_of_no_dir (h : Closed t) {path : Bytes} {l : Location}
    (hl : t.locate path = .ok l) (hnd : ∀ mode, t.get? l ≠ some (.dir mode)) :
    IsEntryName (Path.base path) ∧ l = place (Path.dir path) ++ [Path.base path] := by
  obtain ⟨hpath, hwalk⟩ := locate_ok hl
  have hnodots : ∀ cs c, c = utf8 "." ∨ c = utf8 ".." → steps path ≠ cs ++ [c] := by
    intro cs c hc hsteps
    rw [hsteps] at hwalk
    obtain ⟨mode, hmode⟩ := h.dir_of_dots hwalk hc
    exact hnd mode hmode
  have hsteps : steps path = named path :=
    (steps_eq path).resolve_right (hnodots _ _ (.inl rfl))
  obtain ⟨hslash, hform⟩ := lastPart_spec path
  have hlast : lastPart path ≠ [] := by
    intro hlast
    rw [hlast] at hform
    obtain ⟨hnil, -⟩ | ⟨before, hbefore, -⟩ := hform
    · exact hpath hnil
    · exact hnodots _ _ (.inl rfl) (hbefore ▸ steps_slash before)
  have hnamed : ∃ cs, steps path = cs ++ [lastPart path] := by
    have hone : named (lastPart path) = [lastPart path] := named_of_no_slash hlast hslash
    obtain ⟨hp, -⟩ | ⟨before, hbefore, -⟩ := hform
    · refine ⟨[], ?_⟩
      rw [hsteps, List.nil_append, ← hone, ← hp]
    · refine ⟨named before, ?_⟩
      rw [hsteps, ← hone, ← named_slash, ← hbefore]
  obtain ⟨cs, hcs⟩ := hnamed
  have hentry : IsEntryName (lastPart path) := by
    refine ⟨hlast, fun hdot => ?_, fun hdots => ?_, hslash⟩
    · exact hnodots cs _ (.inl hdot) hcs
    · exact hnodots cs _ (.inr hdots) hcs
  rw [base_eq_lastPart hlast]
  refine ⟨hentry, ?_⟩
  rw [locate_eq_place hl, place_eq_dir, named_of_no_slash hlast hslash, List.foldl_cons,
    List.foldl_nil, stepTo_entry _ hentry]

theorem congr {u : Tree} (h : Closed t) (hu : ∀ l, u.get? l = t.get? l) : Closed u := by
  intro l e hanchor hl
  rw [hu] at hl ⊢
  exact h l e hanchor hl

/-- An entry that is put into a directory keeps a tree closed, unless it replaces a directory. -/
theorem put (h : Closed t) {l : Location} (e : Entry)
    (hdir : ∃ mode, t.get? l.dropLast = some (.dir mode))
    (hnd : ∀ mode, t.get? l ≠ some (.dir mode)) : Closed (t.put l e) := by
  have hnotIn : ∀ {k : Location} {mode : Nat}, t.get? k = some (.dir mode) →
      (t.put l e).get? k = some (.dir mode) := by
    intro k mode hk
    have hkl : k ≠ l := fun he => hnd mode (he ▸ hk)
    rw [get?_put_of_ne _ _ hkl, hk]
  intro k f hanchor hk
  by_cases hkl : k = l
  · subst hkl
    obtain ⟨mode, hmode⟩ := hdir
    exact ⟨mode, hnotIn hmode⟩
  · rw [get?_put_of_ne _ _ hkl] at hk
    obtain ⟨mode, hmode⟩ := h k f hanchor hk
    exact ⟨mode, hnotIn hmode⟩

/-- An entry that nothing is in can be erased. -/
theorem erase (h : Closed t) {l : Location}
    (hfree : ∀ k e, isAnchor k = false → t.get? k = some e → k.dropLast ≠ l) :
    Closed (t.erase l) := by
  intro k e hanchor hk
  by_cases hkl : k = l
  · subst hkl
    rw [get?_erase_self _ hanchor] at hk
    cases hk
  · rw [get?_erase_of_ne _ hkl] at hk
    rw [get?_erase_of_ne _ (hfree k e hanchor hk)]
    exact h k e hanchor hk

/-- Nothing is in a file. -/
theorem nothing_in_file (h : Closed t) {l : Location} {mode : Nat} {content : Bytes}
    (hl : t.get? l = some (.file mode content)) (k : Location) (e : Entry)
    (hanchor : isAnchor k = false) (hk : t.get? k = some e) : k.dropLast ≠ l := by
  rintro rfl
  obtain ⟨m, hm⟩ := h k e hanchor hk
  rw [hl] at hm
  cases hm

end Closed

/-- What is removed was there, and was no directory with anything in it. -/
theorem remove_ok {t u : Tree} {path : Bytes} (h : t.remove path = .ok u) :
    ∃ l e, t.lookup path = .ok (l, e) ∧ isAnchor l = false ∧ u = t.erase l ∧
      ∀ m, e = .dir m → ∀ p ∈ t.entries, p.1 ≠ [] → p.1.dropLast ≠ l := by
  unfold remove at h
  cases hlookup : t.lookup path with
  | error f =>
    rw [hlookup] at h
    cases h
  | ok found =>
    obtain ⟨l, e⟩ := found
    rw [hlookup] at h
    cases e with
    | file m data =>
      dsimp only at h
      split_ifs at h with _ _ hanchor
      cases h
      exact ⟨l, _, rfl, by simpa using hanchor, rfl, by simp⟩
    | dir m =>
      dsimp only at h
      split_ifs at h with _ _ hanchor _ hany
      cases h
      refine ⟨l, _, rfl, by simpa using hanchor, rfl, fun _ _ p hp hne hl => hany ?_⟩
      rw [List.any_eq_true]
      exact ⟨p, hp, by simp [hl, hne]⟩

/-- Only a name that means nothing is reported as missing. -/
theorem remove_missing {t : Tree} {path : Bytes} {e : PathError} (h : t.remove path = .error e)
    (he : e.fault = .noEntry) : t.lookup path = .error .noEntry := by
  unfold remove at h
  cases hlookup : t.lookup path with
  | error f =>
    rw [hlookup] at h
    cases h
    rw [← he]
  | ok found =>
    exfalso
    obtain ⟨l, entry⟩ := found
    rw [hlookup] at h
    cases entry with
    | file =>
      dsimp only at h
      split_ifs at h
      all_goals
        cases h
        cases he
    | dir =>
      dsimp only at h
      split_ifs at h
      all_goals
        cases h
        cases he

theorem mem_entries {t : Tree} {l : Location} {e : Entry} (hanchor : isAnchor l = false)
    (h : t.get? l = some e) : (l, e) ∈ t.entries := by
  simp only [get?, hanchor, Bool.false_eq_true, if_false] at h
  obtain ⟨before, after, hentries, -⟩ := List.lookup_eq_some_iff.mp h
  simp [hentries]

/-- Removing keeps a tree closed. -/
theorem remove_closed {t u : Tree} {path : Bytes} (ht : Closed t) (h : t.remove path = .ok u) :
    Closed u := by
  obtain ⟨l, e, hlookup, hanchor, rfl, hempty⟩ := remove_ok h
  refine ht.erase fun k f hk hf => ?_
  cases e with
  | file m data =>
    exact ht.nothing_in_file (lookup_eq_ok.mp hlookup).2 k f hk hf
  | dir m =>
    refine hempty m rfl _ (mem_entries hk hf) ?_
    rintro rfl
    cases hk

theorem closed_empty : Closed Tree.empty := by
  intro l e hanchor hl
  simp [get?, hanchor, Tree.empty] at hl

end Tree

section Write

variable {refused : Option Refusal} {t : Tree} {path content : Bytes} {mode dirMode : Nat}
  {digits : Nat → Bytes}

theorem makeMissing_closed (ht : Closed t) (dir : Bytes) (mode : Nat) :
    ∀ u ∈ (makeMissing t dir mode).trees, Closed u := by
  intro u hu
  simp only [makeMissing, makeDir] at hu
  cases hv : t.vacancy dir with
  | error f =>
    simp only [hv] at hu
    split_ifs at hu <;> simp at hu
  | ok l =>
    simp only [hv, List.mem_singleton] at hu
    subst hu
    obtain ⟨-, hnone, hchange⟩ := vacancy_ok hv
    obtain ⟨m, hm, -⟩ := dir_of_mayChange hchange
    exact ht.put _ ⟨m, hm⟩ (by simp [hnone])

/-- Making directories keeps a tree closed at every step. -/
theorem makeDirs_closed (ht : Closed t) (mode fuel : Nat) (dir : Bytes) :
    ∀ u ∈ (makeDirs mode fuel t dir).trees, Closed u := by
  induction fuel generalizing dir with
  | zero => simp [makeDirs]
  | succ fuel ih =>
    intro u hu
    rw [makeDirs] at hu
    split at hu
    · simp at hu
    · simp at hu
    · split at hu
      · exact makeMissing_closed ht dir mode u hu
      · rename_i upper hparent
        dsimp only at hu
        split at hu
        · exact ih upper u hu
        · rcases List.mem_append.mp hu with hu | hu
          · exact ih upper u hu
          · exact makeMissing_closed (Written.final_of_trees ht (ih upper)) dir mode u hu

theorem prepared_closed (ht : Closed t) (path : Bytes) (dirMode : Nat) :
    Closed (prepared t path dirMode) :=
  Written.final_of_trees ht (makeDirs_closed ht _ _ _)

/-- A write leaves a closed tree behind. -/
theorem writeFile_closed (ht : Closed t) :
    Closed ((writeFileOn refused t path content mode dirMode digits).final t) := by
  have hp := prepared_closed ht path dirMode
  obtain ⟨_, _, hf⟩ | ⟨name, l, hl, ⟨_, _, hf⟩ | ⟨-, -, moved, hm, hf⟩⟩ :=
    writeFile_cases refused t path content mode dirMode digits
  · rw [Written.final, hf]
    exact hp
  · rw [Written.final, hf, List.getLastD_concat]
    exact hp.congr (get?_fill_erase (temporaryName_vacant hl))
  · obtain ⟨target, -, hhere, helse, hdir, hnd⟩ := moveTo_filled (temporaryName_vacant hl) hm
    rw [Written.final, hf, List.getLastD_concat]
    refine (hp.put (.file (mode % 0o1000) content) hdir hnd).congr ?_
    intro k
    by_cases hk : k = target
    · subst hk
      rw [hhere, get?_put_self]
      by_contra ha
      exact hnd _ (get?_anchor _ (by simpa using ha))
    · rw [helse k hk, get?_put_of_ne _ _ hk]

end Write

end DocPull.Files
