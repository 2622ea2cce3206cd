import DocPull.Proofs.Files.Closed

/-!
# Names without dots

The way to a name without dots passes the places above its own and nothing else. New directories on
that way change nothing about what the name means: it was missing and stays missing. One thing can
differ: a component that is too long is noticed only once its directory is there.
-/
open DocPull.Files.Tree

namespace DocPull.Files

/-- A name without dots that does not end in a slash. -/
structure IsPlain (path : Bytes) : Prop where
  ends : Bytes.endsWith path (utf8 "/") = false
  no_dots : ∀ c ∈ Path.components path, c ≠ utf8 "." ∧ c ≠ utf8 ".."

instance (path : Bytes) : Decidable (IsPlain path) :=
  decidable_of_iff (Bytes.endsWith path (utf8 "/") = false ∧
    ∀ c ∈ Path.components path, c ≠ utf8 "." ∧ c ≠ utf8 "..")
    ⟨fun h => ⟨h.1, h.2⟩, fun h => ⟨h.ends, h.no_dots⟩⟩

/-- Whether a component of a name is longer than an entry's name may be. -/
def HasLongComponent (path : Bytes) : Prop := ∃ c ∈ Path.components path, maxName < c.length

theorem lastPart_mem (path : Bytes) : lastPart path ∈ Path.components path := by
  obtain ⟨hslash, ⟨hpath, -⟩ | ⟨before, hpath, -⟩⟩ := lastPart_spec path
  · have hone : Path.components (lastPart path) = [lastPart path] := Bytes.split_of_not_mem hslash
    rw [← hpath] at hone ⊢
    simp [hone]
  · have hparts : Path.components path = Path.components before ++ [lastPart path] := by
      rw [← Bytes.split_of_not_mem hslash, Path.components, Path.components, ← Bytes.split_append,
        ← hpath]
    simp [hparts]

namespace IsPlain

variable {path : Bytes}

theorem entryName (h : IsPlain path) : ∀ c ∈ named path, IsEntryName c := by
  intro c hc
  obtain ⟨hmem, hne⟩ := List.mem_filter.mp hc
  obtain ⟨hdot, hdots⟩ := h.no_dots c hmem
  exact ⟨by simpa using hne, hdot, hdots, Bytes.not_mem_of_mem_split hmem⟩

theorem steps_eq (h : IsPlain path) : steps path = named path :=
  if_neg (by simp [h.ends])

theorem place_eq (h : IsPlain path) : place path = start path ++ named path := by
  have hfold : ∀ (cs : List Bytes) (l : Location), (∀ c ∈ cs, IsEntryName c) →
      cs.foldl stepTo l = l ++ cs := by
    intro cs
    induction cs with
    | nil => simp
    | cons c cs ih =>
      intro l hcs
      obtain ⟨hc, hrest⟩ := List.forall_mem_cons.mp hcs
      rw [List.foldl_cons, stepTo_entry l hc, ih _ hrest, List.append_assoc,
        List.singleton_append]
  exact hfold _ _ h.entryName

/-- The place of a plain name is below the place of its directory. -/
theorem not_prefix_dir (h : IsPlain path) (hne : path ≠ []) :
    ¬place path <+: place (Path.dir path) := by
  intro hprefix
  have hlast : lastPart path ≠ [] := by
    intro hlast
    obtain ⟨-, ⟨hpath, -⟩ | ⟨before, hpath, -⟩⟩ := lastPart_spec path
    · exact hne (hpath.trans hlast)
    · rw [hlast] at hpath
      have hends := h.ends
      rw [Bytes.endsWith_slash_iff.mpr ⟨before, hpath⟩] at hends
      cases hends
  have hslash := (lastPart_spec path).1
  obtain ⟨hdot, hdots⟩ := h.no_dots _ (lastPart_mem path)
  rw [place_eq_dir, named_of_no_slash hlast hslash, List.foldl_cons, List.foldl_nil,
    stepTo_entry _ ⟨hlast, hdot, hdots, hslash⟩] at hprefix
  have hlength := hprefix.length_le
  rw [List.length_append, List.length_singleton] at hlength
  omega

end IsPlain

namespace Tree

/-- What stands where components lead to. -/
def lookFrom (t : Tree) (l : Location) (cs : List Bytes) : Except Fault (Location × Entry) :=
  match t.walk l cs with
  | .error f => .error f
  | .ok k =>
    match t.get? k with
    | some e => .ok (k, e)
    | none => .error .noEntry

theorem lookup_eq_lookFrom (t : Tree) (path : Bytes) :
    t.lookup path =
      if path.contains 0 then .error .invalidName
      else if path = [] then .error .noEntry
      else if maxPath < path.length then .error .nameTooLong
      else t.lookFrom (start path) (steps path) := by
  simp only [lookup, locate, bind, Except.bind]
  split_ifs
  · rfl
  · rfl
  · rfl
  · rw [lookFrom]
    cases t.walk (start path) (steps path) with
    | error f => rfl
    | ok k =>
      dsimp only
      cases t.get? k <;> rfl

theorem lookFrom_of_none {t : Tree} {l : Location} (h : t.get? l = none) (cs : List Bytes) :
    t.lookFrom l cs = .error .noEntry := by
  cases cs <;> simp [lookFrom, walk, h]

theorem lookFrom_cons (t : Tree) (l : Location) {c : Bytes} (hc : IsEntryName c)
    (cs : List Bytes) :
    t.lookFrom l (c :: cs) =
      match t.get? l with
      | none => .error .noEntry
      | some (.file _ _) => .error .notDirectory
      | some (.dir mode) =>
        if !allows mode ownerSearch then .error .denied
        else if maxName < c.length then .error .nameTooLong
        else t.lookFrom (l ++ [c]) cs := by
  rw [lookFrom, walk]
  cases t.get? l with
  | none => rfl
  | some e =>
    cases e with
    | file => rfl
    | dir mode =>
      dsimp only
      rw [if_neg hc.ne_dot, if_neg hc.ne_dots]
      split_ifs <;> rfl

/-- New directories on the way leave what is found as it is, or uncover a component that is too
long. -/
theorem lookFrom_of_added {t u : Tree} {mode : Nat} (ht : Closed t)
    (hmode : allows mode ownerSearch = true)
    (hadded : ∀ k, u.get? k = t.get? k ∨ t.get? k = none ∧ u.get? k = some (.dir mode))
    {cs : List Bytes} (hcs : ∀ c ∈ cs, IsEntryName c) {l : Location}
    (hend : u.get? (l ++ cs) = t.get? (l ++ cs)) :
    u.lookFrom l cs = t.lookFrom l cs ∨
      t.lookFrom l cs = .error .noEntry ∧ u.lookFrom l cs = .error .nameTooLong ∧
        ∃ c ∈ cs, maxName < c.length := by
  induction cs generalizing l with
  | nil =>
    rw [List.append_nil] at hend
    simp [lookFrom, walk, hend]
  | cons c cs ih =>
    obtain ⟨hc, hrest⟩ := List.forall_mem_cons.mp hcs
    have hnext := ih hrest (l := l ++ [c]) (by simpa using hend)
    rw [lookFrom_cons u l hc, lookFrom_cons t l hc]
    rcases hadded l with hsame | ⟨hnone, hdir⟩
    · rw [hsame]
      cases t.get? l with
      | none => exact .inl rfl
      | some e =>
        cases e with
        | file => exact .inl rfl
        | dir m =>
          dsimp only
          split_ifs
          · exact .inl rfl
          · exact .inl rfl
          · refine hnext.imp_right ?_
            rintro ⟨hmissing, hlong, d, hd, hdlong⟩
            exact ⟨hmissing, hlong, d, List.mem_cons_of_mem c hd, hdlong⟩
    · -- Nothing was there, so nothing is below it.
      have hbelow : t.get? (l ++ [c]) = none := by
        cases hget : t.get? (l ++ [c]) with
        | none => rfl
        | some e =>
          obtain ⟨m, hm⟩ := ht _ e (isAnchor_concat l hc) hget
          rw [List.dropLast_concat, hnone] at hm
          cases hm
      rw [lookFrom_of_none hbelow] at hnext
      simp only [hnone, hdir, hmode, Bool.not_true, Bool.false_eq_true, if_false]
      split_ifs with hlong
      · exact .inr ⟨trivial, rfl, c, by simp, hlong⟩
      · refine hnext.imp_right ?_
        rintro ⟨-, hlong', d, hd, hdlong⟩
        exact ⟨trivial, hlong', d, List.mem_cons_of_mem c hd, hdlong⟩

/-- What a plain name means after directories were made for it. -/
theorem lookup_of_makes {t u : Tree} {path : Bytes} {mode : Nat} (ht : Closed t)
    (hpath : IsPlain path) (hmode : allows (masked mode) ownerSearch = true)
    (h : Makes (Path.dir path) mode t u) :
    u.lookup path = t.lookup path ∨
      t.lookup path = .error .noEntry ∧ u.lookup path = .error .nameTooLong ∧
        HasLongComponent path := by
  rw [lookup_eq_lookFrom, lookup_eq_lookFrom]
  split_ifs with hzero hne hlong
  · exact .inl rfl
  · exact .inl rfl
  · exact .inl rfl
  · have hend : u.get? (start path ++ steps path) = t.get? (start path ++ steps path) := by
      rw [hpath.steps_eq, ← hpath.place_eq]
      rcases h (place path) with hsame | ⟨-, -, outer, henc, hloc⟩
      · exact hsame
      · refine absurd ?_ (hpath.not_prefix_dir hne)
        nth_rewrite 1 [locate_eq_place hloc]
        exact henc.place_prefix (dir_dotsFirst path)
    have hadded : ∀ k, u.get? k = t.get? k ∨
        t.get? k = none ∧ u.get? k = some (.dir (masked mode)) :=
      fun k => (h k).imp_right fun hnew => ⟨hnew.1, hnew.2.1⟩
    have hnames : ∀ c ∈ steps path, IsEntryName c := hpath.steps_eq ▸ hpath.entryName
    refine (lookFrom_of_added ht hmode hadded hnames hend).imp_right ?_
    rintro ⟨hmissing, hfault, c, hc, hclong⟩
    rw [hpath.steps_eq] at hc
    exact ⟨hmissing, hfault, c, (List.mem_filter.mp hc).1, hclong⟩

/-- The way to a plain name passes the places above it only. -/
theorem walk_of_prefixes {t u : Tree} {cs : List Bytes} (hcs : ∀ c ∈ cs, IsEntryName c)
    {l : Location} (h : ∀ k, k <+: l ++ cs → k ≠ l ++ cs → u.get? k = t.get? k) :
    u.walk l cs = t.walk l cs := by
  induction cs generalizing l with
  | nil => rfl
  | cons c cs ih =>
    obtain ⟨hc, hrest⟩ := List.forall_mem_cons.mp hcs
    have hhere : u.get? l = t.get? l := by
      refine h l (List.prefix_append _ _) ?_
      simp
    have hnext := ih hrest (l := l ++ [c]) (by simpa using h)
    simp only [walk, hhere, if_neg hc.ne_dot, if_neg hc.ne_dots, hnext]

/-- A plain name means nothing after what it meant was removed. -/
theorem lookup_of_remove {t u : Tree} {path : Bytes} (hpath : IsPlain path)
    (h : t.remove path = .ok u) : u.lookup path = .error .noEntry := by
  obtain ⟨l, e, hlookup, hanchor, rfl, -⟩ := remove_ok h
  have hlocate := (lookup_eq_ok.mp hlookup).1
  have hplace : l = start path ++ named path := (locate_eq_place hlocate).trans hpath.place_eq
  have hwalk : (t.erase l).walk (start path) (steps path) = t.walk (start path) (steps path) := by
    rw [hpath.steps_eq]
    refine walk_of_prefixes hpath.entryName fun k _ hk => ?_
    rw [← hplace] at hk
    exact get?_erase_of_ne t hk
  have hsame : (t.erase l).locate path = .ok l := by
    rw [← hlocate, locate, locate, hwalk]
  exact lookup_missing hsame (get?_erase_self t hanchor)

end Tree

end DocPull.Files
