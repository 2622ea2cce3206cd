import DocPull.Files.Tree
import DocPull.Proofs.Outcome
import Mathlib.Tactic

/-!
# Views of a file tree

What stands at a location after an entry was put or erased, and how names are followed in a tree
that keeps every directory. Two relations between trees recur: one where only directories were
added, and one where besides that a single location may hold something else.
-/
namespace DocPull.Files

namespace Tree

theorem lookup_filter_ne (entries : List (Location × Entry)) (l k : Location) (hk : k ≠ l) :
    (entries.filter fun p => p.1 != l).lookup k = entries.lookup k := by
  induction entries with
  | nil => rfl
  | cons p entries ih =>
    obtain ⟨m, e⟩ := p
    by_cases hm : m = l
    · subst hm
      have hkm : (k == m) = false := by simpa using hk
      simp [List.lookup_cons, hkm, ih]
    · simp [List.lookup_cons, hm, ih]

theorem lookup_filter_self (entries : List (Location × Entry)) (l : Location) :
    (entries.filter fun p => p.1 != l).lookup l = none := by
  rw [List.lookup_eq_none_iff]
  intro p hp
  have hne := (List.mem_filter.mp hp).2
  simp only [bne_iff_ne, ne_eq] at hne
  simpa using Ne.symm hne

theorem get?_anchor (t : Tree) {l : Location} (h : isAnchor l = true) :
    t.get? l = some (.dir 0o755) := by simp [get?, h]

theorem not_anchor_of_none {t : Tree} {l : Location} (h : t.get? l = none) :
    isAnchor l = false := by
  by_contra hl
  rw [Bool.not_eq_false] at hl
  rw [get?_anchor t hl] at h
  cases h

theorem get?_put_of_ne (t : Tree) (e : Entry) {l k : Location} (h : k ≠ l) :
    (t.put l e).get? k = t.get? k := by
  have hkl : (k == l) = false := by simpa using h
  simp only [get?, put, List.lookup_cons, hkl, lookup_filter_ne t.entries l k h]

theorem get?_put_self (t : Tree) (e : Entry) {l : Location} (h : isAnchor l = false) :
    (t.put l e).get? l = some e := by
  simp [get?, put, h]

theorem get?_erase_of_ne (t : Tree) {l k : Location} (h : k ≠ l) :
    (t.erase l).get? k = t.get? k := by
  simp only [get?, erase, lookup_filter_ne t.entries l k h]

theorem get?_erase_self (t : Tree) {l : Location} (h : isAnchor l = false) :
    (t.erase l).get? l = none := by
  simp [get?, erase, h, lookup_filter_self]

/-- Following components looks at directories only, so a tree that has the same directories at
least leads to the same place. -/
theorem walk_of_dirs {t u : Tree}
    (h : ∀ l m, t.get? l = some (.dir m) → u.get? l = some (.dir m)) (l : Location)
    (cs : List Bytes) (k : Location) (hw : t.walk l cs = .ok k) : u.walk l cs = .ok k := by
  induction cs generalizing l with
  | nil => simpa [walk] using hw
  | cons c cs ih =>
    rw [walk] at hw ⊢
    cases ht : t.get? l with
    | none => simp [ht] at hw
    | some e =>
      cases e with
      | file m s => simp [ht] at hw
      | dir m =>
        simp only [ht, h l m ht] at hw ⊢
        split_ifs at hw ⊢
        all_goals exact ih _ hw

theorem locate_of_dirs {t u : Tree}
    (h : ∀ l m, t.get? l = some (.dir m) → u.get? l = some (.dir m)) (path : Bytes)
    (k : Location) (hl : t.locate path = .ok k) : u.locate path = .ok k := by
  unfold locate at hl ⊢
  split_ifs at hl ⊢
  exact walk_of_dirs h _ _ _ hl

theorem lookup_eq_ok {t : Tree} {path : Bytes} {l : Location} {e : Entry} :
    t.lookup path = .ok (l, e) ↔ t.locate path = .ok l ∧ t.get? l = some e := by
  rw [lookup, Outcome.bind_eq_ok]
  constructor
  · rintro ⟨k, hk, hfound⟩
    split at hfound
    · rename_i f hf
      cases hfound
      exact ⟨hk, hf⟩
    · cases hfound
  · rintro ⟨hl, he⟩
    exact ⟨l, hl, by rw [he]; rfl⟩

theorem lookup_missing {t : Tree} {path : Bytes} {l : Location} (hl : t.locate path = .ok l)
    (hnone : t.get? l = none) : t.lookup path = .error .noEntry := by
  rw [lookup, hl]
  simp [bind, Except.bind, hnone, throw, throwThe, MonadExceptOf.throw]

/-- A name that leads to a file its owner may read gives the content of that file. -/
theorem read_of_file {t : Tree} {path content : Bytes} {l : Location} {mode : Nat}
    (hl : t.locate path = .ok l) (he : t.get? l = some (.file mode content))
    (hm : allows mode ownerRead = true) : t.read path = .ok content := by
  have hlook : t.lookup path = .ok (l, .file mode content) := lookup_eq_ok.mpr ⟨hl, he⟩
  simp [read, hlook, hm]

/-- What is read is the content of a file that the name leads to. -/
theorem file_of_read {t : Tree} {path content : Bytes} (h : t.read path = .ok content) :
    ∃ l mode, t.locate path = .ok l ∧ t.get? l = some (.file mode content) ∧
      allows mode ownerRead = true := by
  unfold read lookup at h
  cases hl : t.locate path with
  | error f =>
    rw [hl] at h
    cases h
  | ok l =>
    rw [hl] at h
    simp only [bind, Except.bind] at h
    cases he : t.get? l with
    | none =>
      rw [he] at h
      cases h
    | some e =>
      rw [he] at h
      cases e with
      | dir mode =>
        dsimp only [pure, Except.pure] at h
        split_ifs at h
      | file mode s =>
        dsimp only [pure, Except.pure] at h
        split_ifs at h with hm
        cases h
        exact ⟨l, mode, rfl, he, hm⟩

theorem isDir_of_dir {t : Tree} {path : Bytes} {l : Location} {mode : Nat}
    (hl : t.locate path = .ok l) (he : t.get? l = some (.dir mode)) : t.isDir path = true := by
  have hlook : t.lookup path = .ok (l, .dir mode) := lookup_eq_ok.mpr ⟨hl, he⟩
  simp [isDir, hlook]

theorem dir_of_mayChange {t : Tree} {l : Location} (h : t.mayChange l = true) :
    ∃ mode, t.get? l.dropLast = some (.dir mode) ∧ allows mode ownerWrite = true := by
  unfold mayChange at h
  split at h
  · rename_i mode hmode
    exact ⟨mode, hmode, h⟩
  · cases h

/-- A place for a new entry is where the name leads to, empty, and in a directory that may be
changed. -/
theorem vacancy_ok {t : Tree} {path : Bytes} {l : Location} (h : t.vacancy path = .ok l) :
    t.locate path = .ok l ∧ t.get? l = none ∧ t.mayChange l = true := by
  simp only [vacancy, bind, Except.bind] at h
  cases hk : t.locate path with
  | error f => simp [hk] at h
  | ok k =>
    simp only [hk] at h
    cases hg : t.get? k with
    | some e => simp [hg, throw, throwThe, MonadExceptOf.throw] at h
    | none =>
      simp only [hg] at h
      split_ifs at h with hm
      · simp only [pure, Except.pure, Except.ok.injEq] at h
        subst h
        exact ⟨rfl, hg, hm⟩

theorem locate_of_vacancy {t : Tree} {path : Bytes} {l : Location} (h : t.vacancy path = .ok l) :
    t.locate path = .ok l :=
  (vacancy_ok h).1

theorem get?_of_vacancy {t : Tree} {path : Bytes} {l : Location} (h : t.vacancy path = .ok l) :
    t.get? l = none :=
  (vacancy_ok h).2.1

/-- The second tree is the first one with some directories added. -/
def AddsDirs (t u : Tree) : Prop :=
  ∀ l, u.get? l = t.get? l ∨ t.get? l = none ∧ ∃ m, u.get? l = some (.dir m)

/-- Both trees hold the same files, with the same modes and contents. -/
def SameFiles (t u : Tree) : Prop :=
  ∀ l mode content, u.get? l = some (.file mode content) ↔ t.get? l = some (.file mode content)

namespace AddsDirs

theorem refl (t : Tree) : AddsDirs t t := fun _ => .inl rfl

theorem sameFiles {t u : Tree} (h : AddsDirs t u) : SameFiles t u := by
  intro l mode content
  rcases h l with hl | ⟨hn, m, hm⟩
  · rw [hl]
  · simp [hn, hm]

theorem none_of_none {t u : Tree} (h : AddsDirs t u) {l : Location} (hl : u.get? l = none) :
    t.get? l = none := by
  rcases h l with he | ⟨hn, _⟩
  · rw [← he, hl]
  · exact hn

/-- Whatever is there stays there. -/
theorem kept {t u : Tree} (h : AddsDirs t u) {l : Location} {e : Entry} (he : t.get? l = some e) :
    u.get? l = some e := by
  rcases h l with hl | ⟨hn, _⟩
  · rw [hl, he]
  · rw [hn] at he
    cases he

/-- A name that leads somewhere leads to the same place. -/
theorem locate {t u : Tree} (h : AddsDirs t u) {path : Bytes} {l : Location}
    (hl : t.locate path = .ok l) : u.locate path = .ok l :=
  locate_of_dirs (fun _ _ => h.kept) path l hl

/-- A file that can be read can be read with the same content. -/
theorem read {t u : Tree} (h : AddsDirs t u) {path content : Bytes}
    (hread : t.read path = .ok content) : u.read path = .ok content := by
  obtain ⟨l, mode, hlocate, hfile, hmode⟩ := file_of_read hread
  exact read_of_file (h.locate hlocate) (h.kept hfile) hmode

theorem put {t : Tree} {l : Location} (mode : Nat) (h : t.get? l = none) :
    AddsDirs t (t.put l (.dir mode)) := by
  intro k
  by_cases hk : k = l
  · subst hk
    exact .inr ⟨h, mode, get?_put_self t _ (not_anchor_of_none h)⟩
  · exact .inl (get?_put_of_ne t _ hk)

end AddsDirs

end Tree

end DocPull.Files
