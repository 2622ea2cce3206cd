import DocPull.Proofs.Files.Closed

/-!
# Between two steps of a write

A write can be cut off, or watched, after any of its steps. At each of these points the target is as
it was or holds all of the new content, every other file is as it was, and new content is nowhere
else than in the temporary file, which has the final mode before its first byte. In the end the
temporary name is free again. The temporary file is never in the way of the target: it is another
entry of the same directory, since its name is longer.
-/
open DocPull.Files.Tree

namespace DocPull.Files

namespace Tree

/-- The mode and the content of the file that a name means. -/
def fileAt? (t : Tree) (path : Bytes) : Option (Nat × Bytes) :=
  match t.lookup path with
  | .ok (_, .file mode content) => some (mode, content)
  | _ => none

theorem fileAt?_eq_some {t : Tree} {path content : Bytes} {mode : Nat} :
    t.fileAt? path = some (mode, content) ↔
      ∃ l, t.locate path = .ok l ∧ t.get? l = some (.file mode content) := by
  simp only [← lookup_eq_ok, fileAt?]
  cases t.lookup path with
  | error f => simp
  | ok found =>
    obtain ⟨l, e⟩ := found
    cases e <;> simp

theorem fileAt?_eq_of_iff {t u : Tree} {path : Bytes}
    (h : ∀ l mode content,
      u.locate path = .ok l ∧ u.get? l = some (.file mode content) ↔
        t.locate path = .ok l ∧ t.get? l = some (.file mode content)) :
    u.fileAt? path = t.fileAt? path := by
  apply Option.ext
  rintro ⟨mode, content⟩
  simp only [fileAt?_eq_some, h]

end Tree

theorem entryName_temporary {path digits : Bytes} (hbase : byte '/' ∉ Path.base path)
    (hdigits : ∀ b ∈ digits, Bytes.isDigit b = true) :
    IsEntryName (temporaryEntry path digits) := by
  have hlength : 2 < (temporaryEntry path digits).length := by
    have htmp : (utf8 ".tmp").length = 4 := rfl
    simp only [temporaryEntry, text_cons, text_nil, List.length_append, htmp]
    omega
  refine ⟨?_, ?_, ?_, ?_⟩
  · intro he
    rw [he] at hlength
    simp at hlength
  · intro he
    rw [he] at hlength
    exact absurd hlength (by decide)
  · intro he
    rw [he] at hlength
    exact absurd hlength (by decide)
  · have hslash : byte '/' ∉ digits := fun hmem => absurd (hdigits _ hmem) (by decide)
    have hfixed : byte '/' ∉ utf8 "." ∧ byte '/' ∉ utf8 "-" ∧ byte '/' ∉ utf8 ".tmp" := by decide
    simp only [temporaryEntry, text_cons, text_nil, List.mem_append, not_or]
    exact ⟨hfixed.1, hbase, hfixed.2.1, hslash, hfixed.2.2, by simp⟩

theorem temporaryEntry_ne_base (path digits : Bytes) :
    temporaryEntry path digits ≠ Path.base path := by
  intro he
  have hlength := congrArg List.length he
  have htmp : (utf8 ".tmp").length = 4 := rfl
  simp only [temporaryEntry, text_cons, List.length_append, htmp] at hlength
  omega

section Points

variable {refused : Option Refusal} {t p u : Tree} {path content name : Bytes}
  {mode dirMode perm : Nat} {digits : Nat → Bytes} {l : Location}

/-- Directories made on the way to a target do not change which file it means. -/
theorem fileAt?_of_makes (ht : Closed t) (hu : Closed u) (h : Makes (Path.dir path) dirMode t u) :
    u.fileAt? path = t.fileAt? path := by
  apply fileAt?_eq_of_iff
  intro k m data
  constructor
  · rintro ⟨hloc, hfile⟩
    have hold : t.get? k = some (.file m data) := (h.addsDirs.sameFiles k m data).mp hfile
    obtain ⟨-, hplace⟩ := hu.place_of_no_dir hloc (by simp [hfile])
    refine ⟨locate_of_dirs ?_ path k hloc, hold⟩
    intro d m' hd
    rcases h d with hsame | ⟨hnone, -, outer, henc, hd'⟩
    · rw [← hsame, hd]
    · -- A new directory would be above a file that was there before it.
      exfalso
      have hprefix : d <+: place (Path.dir path) := by
        rw [locate_eq_place hd']
        exact henc.place_prefix (dir_dotsFirst path)
      have hdk : d <+: k := by
        rw [hplace]
        exact hprefix.trans (List.prefix_append _ _)
      have hne : d ≠ k := by
        rintro rfl
        rw [hnone] at hold
        cases hold
      obtain ⟨m'', hm''⟩ := ht.dir_of_prefix hold hdk hne
      rw [hnone] at hm''
      cases hm''
  · rintro ⟨hloc, hfile⟩
    exact ⟨h.addsDirs.locate hloc, h.addsDirs.kept hfile⟩

/-- A temporary file is an entry of the target's directory. -/
theorem temporaryName_inside (hdigits : ∀ i, ∀ b ∈ digits i, Bytes.isDigit b = true)
    (h : temporaryName p path digits = .ok (name, l)) :
    ∃ i m, name = Path.inside (Path.dir path) (temporaryEntry path (digits i)) ∧
      p.locate name = .ok l ∧ p.locate (Path.dir path) = .ok m ∧
      l = m ++ [temporaryEntry path (digits i)] := by
  obtain ⟨hbase, i, hname, hvacant⟩ := temporaryName_ok h
  have hloc := locate_of_vacancy hvacant
  have hloc' := hloc
  rw [hname] at hloc'
  obtain ⟨m, -, hm, -, hl⟩ :=
    locate_inside (dir_ne_nil path) (entryName_temporary hbase (hdigits i)) hloc'
  exact ⟨i, m, hname, hloc, hm, hl⟩

/-- The target is another entry than the temporary file. -/
theorem target_ne_temporary (hp : Closed p)
    (hdigits : ∀ i, ∀ b ∈ digits i, Bytes.isDigit b = true)
    (h : temporaryName p path digits = .ok (name, l)) : p.locate path ≠ .ok l := by
  intro hl
  obtain ⟨i, m, -, -, -, hentry⟩ := temporaryName_inside hdigits h
  obtain ⟨-, hplace⟩ := hp.place_of_no_dir hl (by simp [temporaryName_vacant h])
  have hlast := congrArg List.getLast? (hentry.symm.trans hplace)
  rw [List.getLast?_concat, List.getLast?_concat, Option.some.injEq] at hlast
  exact temporaryEntry_ne_base path (digits i) hlast

/-- While a temporary file is filled the directories stay the same. -/
theorem fill_dirs (hl : p.get? l = none) (hu : u ∈ (fill refused p l perm content).trees)
    (k : Location) (m : Nat) : u.get? k = some (.dir m) ↔ p.get? k = some (.dir m) := by
  by_cases hk : k = l
  · subst hk
    obtain ⟨m', c', hfile⟩ := fill_self (not_anchor_of_none hl) hu
    simp [hfile, hl]
  · rw [fill_elsewhere hu hk]

theorem fill_locate (hl : p.get? l = none) (hu : u ∈ (fill refused p l perm content).trees)
    (path : Bytes) (k : Location) : u.locate path = .ok k ↔ p.locate path = .ok k :=
  ⟨locate_of_dirs (fun d m => (fill_dirs hl hu d m).mp) path k,
    locate_of_dirs (fun d m => (fill_dirs hl hu d m).mpr) path k⟩

/-- While a temporary file is filled the target means the same file. -/
theorem fileAt?_of_fill (hp : Closed p)
    (hdigits : ∀ i, ∀ b ∈ digits i, Bytes.isDigit b = true)
    (h : temporaryName p path digits = .ok (name, l))
    (hu : u ∈ (fill refused p l perm content).trees) : u.fileAt? path = p.fileAt? path := by
  apply fileAt?_eq_of_iff
  intro k m data
  rw [fill_locate (temporaryName_vacant h) hu]
  refine and_congr_right fun hk => ?_
  have hkl : k ≠ l := by
    rintro rfl
    exact target_ne_temporary hp hdigits h hk
  rw [fill_elsewhere hu hkl]

/-- What holds at every point of a write, given where the temporary file is: the target means the
file it meant or all of the new one, the other files are as they were, and there are no further
ones. -/
structure Tree.Intact (t : Tree) (path content : Bytes) (perm : Nat) (temporary : Option Location)
    (u : Tree) : Prop where
  target : u.fileAt? path = t.fileAt? path ∨ u.fileAt? path = some (perm, content)
  others : ∀ k m data, t.get? k = some (.file m data) →
    u.get? k = some (.file m data) ∨ u.locate path = .ok k
  written : ∀ k m data, u.get? k = some (.file m data) →
    t.get? k = some (.file m data) ∨ u.locate path = .ok k ∨ temporary = some k

theorem intact_of_makes (ht : Closed t) (hu : Closed u) (h : Makes (Path.dir path) dirMode t u)
    (content : Bytes) (perm : Nat) (temporary : Option Location) :
    Intact t path content perm temporary u where
  target := .inl (fileAt?_of_makes ht hu h)
  others _ _ _ hk := .inl (h.addsDirs.kept hk)
  written k m data hk := .inl ((h.addsDirs.sameFiles k m data).mp hk)

theorem intact_of_fill (ht : Closed t) (hdigits : ∀ i, ∀ b ∈ digits i, Bytes.isDigit b = true)
    (h : temporaryName (prepared t path dirMode) path digits = .ok (name, l))
    (hu : u ∈ (fill refused (prepared t path dirMode) l perm content).trees) :
    Intact t path content perm (some l) u := by
  have hp := prepared_closed ht path dirMode
  have hmakes := prepared_makes t path dirMode
  have hnone := temporaryName_vacant h
  refine ⟨.inl ?_, ?_, ?_⟩
  · rw [fileAt?_of_fill hp hdigits h hu, fileAt?_of_makes ht hp hmakes]
  · intro k m data hk
    have hkept := hmakes.addsDirs.kept hk
    have hkl : k ≠ l := by
      rintro rfl
      rw [hnone] at hkept
      cases hkept
    exact .inl (fill_elsewhere hu hkl ▸ hkept)
  · intro k m data hk
    by_cases hkl : k = l
    · exact .inr (.inr (by rw [hkl]))
    · rw [fill_elsewhere hu hkl] at hk
      exact .inl ((hmakes.addsDirs.sameFiles k m data).mp hk)

/-- The last tree of a write that made a temporary file: nothing is lost, the temporary file is
gone, and all directories are there. -/
structure Tree.Settled (t : Tree) (path content : Bytes) (perm dirMode : Nat) (l : Location)
    (last : Tree) : Prop where
  intact : Intact t path content perm (some l) last
  gone : last.get? l = none
  dirs : ∀ k m, (prepared t path dirMode).get? k = some (.dir m) → last.get? k = some (.dir m)

theorem settled_of_erased (ht : Closed t) (hl : (prepared t path dirMode).get? l = none) :
    Settled t path content perm dirMode l
      (((fill refused (prepared t path dirMode) l perm content).final
        (prepared t path dirMode)).erase l) := by
  have hsame : ∀ k, (((fill refused (prepared t path dirMode) l perm content).final
      (prepared t path dirMode)).erase l).get? k = (prepared t path dirMode).get? k :=
    get?_fill_erase hl
  have hmakes := (prepared_makes t path dirMode).trans fun k => .inl (hsame k)
  have hclosed := (prepared_closed ht path dirMode).congr hsame
  exact ⟨intact_of_makes ht hclosed hmakes _ _ _, (hsame l).trans hl,
    fun k m hk => (hsame k).trans hk⟩

theorem settled_of_moved {moved : Tree} (ht : Closed t)
    (hdigits : ∀ i, ∀ b ∈ digits i, Bytes.isDigit b = true)
    (h : temporaryName (prepared t path dirMode) path digits = .ok (name, l))
    (hm : moveTo (filled t path content mode dirMode l) l (.file (mode % 0o1000) content) path =
      .ok moved) :
    Settled t path content (mode % 0o1000) dirMode l moved := by
  have hnone := temporaryName_vacant h
  have hadds := prepared_addsDirs t path dirMode
  obtain ⟨target, hloc, hhere, helse, -, hnd⟩ := moveTo_filled hnone hm
  have htarget : (prepared t path dirMode).locate path = .ok target := by
    refine locate_of_dirs ?_ path target hloc
    intro k m hk
    have hkt : k ≠ target := by
      rintro rfl
      rw [hhere] at hk
      cases hk
    rw [← helse k hkt, hk]
  have hne : l ≠ target := by
    rintro rfl
    exact target_ne_temporary (prepared_closed ht path dirMode) hdigits h htarget
  refine ⟨⟨.inr (fileAt?_eq_some.mpr ⟨target, hloc, hhere⟩), ?_, ?_⟩, ?_, ?_⟩
  · intro k m data hk
    by_cases hkt : k = target
    · exact .inr (hkt ▸ hloc)
    · rw [helse k hkt]
      exact .inl (hadds.kept hk)
  · intro k m data hk
    by_cases hkt : k = target
    · exact .inr (.inl (hkt ▸ hloc))
    · rw [helse k hkt] at hk
      exact .inl ((hadds.sameFiles k m data).mp hk)
  · rw [helse l hne, hnone]
  · intro k m hk
    rw [helse k fun hkt => hnd m (hkt ▸ hk), hk]

/-- Between two points a file gets no content unless it has a mode before and after. -/
def Tree.Guards (l : Location) (perm : Nat) (before after : Tree) : Prop :=
  ∀ m data, after.get? l = some (.file m data) → data ≠ [] →
    m = perm ∧ ∃ data', before.get? l = some (.file perm data')

theorem guards_of_empty (h : ∀ m data, u.get? l = some (.file m data) → data = []) (v : Tree) :
    Guards l perm v u :=
  fun m data hu hne => absurd (h m data hu) hne

/-- Points at which a file is not there or empty come first. -/
theorem isChain_guards_append {us rest : List Tree}
    (h : ∀ u ∈ us, ∀ m data, u.get? l = some (.file m data) → data = [])
    (hrest : ∀ v, (v :: rest).IsChain (Guards l perm)) (v : Tree) :
    (v :: (us ++ rest)).IsChain (Guards l perm) := by
  induction us generalizing v with
  | nil => exact hrest v
  | cons u us ih =>
    obtain ⟨hu, hus⟩ := List.forall_mem_cons.mp h
    exact .cons_cons (guards_of_empty hu v) (ih hus u)

/-- The steps in which a temporary file is filled: it is made, gets its mode, gets its content. -/
theorem fill_trees (refused : Option Refusal) (p : Tree) (l : Location) (perm : Nat)
    (content : Bytes) :
    let created := p.put l (.file 0o600 [])
    let restricted := created.put l (.file perm [])
    (fill refused p l perm content).trees = [created] ∨
      ∃ data, (fill refused p l perm content).trees =
        [created, restricted, restricted.put l (.file perm data)] := by
  unfold fill
  split
  · exact .inr ⟨_, rfl⟩
  · split
    · exact .inl rfl
    · exact .inr ⟨_, rfl⟩
    · exact .inr ⟨_, rfl⟩
    · exact .inr ⟨_, rfl⟩

/-- A temporary file is empty at first and has its final mode before there is content. -/
theorem isChain_fill (hl : isAnchor l = false) (v : Tree) :
    (v :: (fill refused p l perm content).trees).IsChain (Guards l perm) := by
  have hempty : ∀ (w : Tree) (m : Nat) (m' : Nat) (data : Bytes),
      (w.put l (.file m [])).get? l = some (.file m' data) → data = [] := by
    intro w m m' data hput
    rw [get?_put_self _ _ hl] at hput
    cases hput
    rfl
  obtain hone | ⟨data, hthree⟩ := fill_trees refused p l perm content
  · rw [hone]
    exact .cons_cons (guards_of_empty (hempty p _) v) (.singleton _)
  · rw [hthree]
    refine .cons_cons (guards_of_empty (hempty p _) v) ?_
    refine .cons_cons (guards_of_empty (hempty _ _) _) (.cons_cons ?_ (.singleton _))
    intro m data' hput hne
    rw [get?_put_self _ _ hl] at hput
    cases hput
    exact ⟨rfl, [], get?_put_self _ _ hl⟩

/-- What is promised of the temporary file of a write: a fresh entry of the target's directory that
has the final mode before its first byte, and whose name is free in the end. -/
structure Temporary (t : Tree) (w : Written WriteError Unit) (path : Bytes) (perm : Nat)
    (digits : Nat → Bytes) (name : Bytes) (l : Location) : Prop where
  fresh : t.get? l = none
  entry : ∃ i, name = Path.inside (Path.dir path) (temporaryEntry path (digits i))
  beside : ∀ u ∈ w.trees, ∀ m data, u.get? l = some (.file m data) →
    u.locate name = .ok l ∧ u.locate (Path.dir path) = .ok l.dropLast
  guarded : (t :: w.trees).IsChain (Guards l perm)
  gone : (w.final t).lookup name = .error .noEntry

theorem temporary_of_settled {w : Written WriteError Unit} {last : Tree}
    (hdigits : ∀ i, ∀ b ∈ digits i, Bytes.isDigit b = true)
    (h : temporaryName (prepared t path dirMode) path digits = .ok (name, l))
    (hw : w.trees = (preparation t path dirMode).trees ++
      (fill refused (prepared t path dirMode) l perm content).trees ++ [last])
    (hlast : Settled t path content perm dirMode l last) :
    Temporary t w path perm digits name l := by
  have hnone := temporaryName_vacant h
  have hfresh := (prepared_addsDirs t path dirMode).none_of_none hnone
  obtain ⟨i, m, hname, hloc, hdir, hl⟩ := temporaryName_inside hdigits h
  have hmade : ∀ u ∈ (preparation t path dirMode).trees, ∀ m data,
      u.get? l ≠ some (.file m data) := by
    intro u hu m data hfile
    have hadds := (makeDirs_makes _ _ _ _ u hu).addsDirs
    rw [(hadds.sameFiles l m data), hfresh] at hfile
    cases hfile
  refine ⟨hfresh, ⟨i, hname⟩, ?_, ?_, ?_⟩
  · intro u hu m' data hfile
    rw [hw, List.mem_append, List.mem_append, List.mem_singleton] at hu
    obtain (hu | hu) | rfl := hu
    · exact absurd hfile (hmade u hu m' data)
    · rw [fill_locate hnone hu, fill_locate hnone hu, hl, List.dropLast_concat]
      exact ⟨hl ▸ hloc, hdir⟩
    · rw [hlast.gone] at hfile
      cases hfile
  · rw [hw, List.append_assoc]
    refine isChain_guards_append (fun u hu m data hf => absurd hf (hmade u hu m data)) ?_ t
    intro v
    rw [← List.cons_append, List.isChain_append]
    refine ⟨isChain_fill (not_anchor_of_none hnone) v, .singleton last, ?_⟩
    intro x _ y hy
    cases hy
    exact guards_of_empty (by simp [hlast.gone]) x
  · have hfinal : w.final t = last := by
      rw [Written.final, hw, List.getLastD_concat]
    rw [hfinal]
    exact lookup_missing (locate_of_dirs hlast.dirs name l hloc) hlast.gone

/-- At every point of a write, and for whatever step the disk refuses, the target means the file it
meant or all of the new one and nothing else is lost. New content is in the target and in the
temporary file only. A failed write leaves no more than directories behind. -/
theorem writeFile_intact (refused : Option Refusal) (ht : Closed t) (path content : Bytes)
    (mode dirMode : Nat) (hdigits : ∀ i, ∀ b ∈ digits i, Bytes.isDigit b = true) :
    let w := writeFileOn refused t path content mode dirMode digits
    let perm := mode % 0o1000
    (∃ temporary : Option (Bytes × Location),
      (∀ u ∈ w.trees, Intact t path content perm (temporary.map (·.2)) u) ∧
      ∀ name l, temporary = some (name, l) → Temporary t w path perm digits name l) ∧
    (w.result = .ok () → (w.final t).fileAt? path = some (perm, content)) ∧
    ∀ e, w.result = .error e → AddsDirs t (w.final t) := by
  intro w perm
  refine ⟨?_, ?_, fun e he => writeFile_error he⟩
  · have hmade : ∀ temporary, ∀ u ∈ (preparation t path dirMode).trees,
        Intact t path content perm temporary u := by
      intro temporary u hu
      exact intact_of_makes ht (makeDirs_closed ht _ _ _ u hu) (makeDirs_makes _ _ _ _ u hu) _ _ _
    obtain ⟨_, _, hw⟩ | ⟨name, l, hl, hlast⟩ :=
      writeFile_cases refused t path content mode dirMode digits
    · exact ⟨none, hw ▸ hmade _, by simp⟩
    · obtain ⟨last, hw, hsettled⟩ : ∃ last,
          w.trees = (preparation t path dirMode).trees ++
            (fill refused (prepared t path dirMode) l perm content).trees ++ [last] ∧
          Settled t path content perm dirMode l last := by
        obtain ⟨_, _, hw⟩ | ⟨_, _, moved, hmoved, hw⟩ := hlast
        · exact ⟨_, hw, settled_of_erased ht (temporaryName_vacant hl)⟩
        · exact ⟨moved, hw, settled_of_moved ht hdigits hl hmoved⟩
      refine ⟨some (name, l), ?_, ?_⟩
      · intro u hu
        rw [hw, List.mem_append, List.mem_append, List.mem_singleton] at hu
        obtain (hu | hu) | rfl := hu
        · exact hmade _ u hu
        · exact intact_of_fill ht hdigits hl hu
        · exact hsettled.intact
      · rintro _ _ ⟨⟩
        exact temporary_of_settled hdigits hl hw hsettled
  · intro hok
    obtain ⟨target, hloc, hreplaces⟩ := writeFile_ok hok
    exact fileAt?_eq_some.mpr ⟨target, hloc, hreplaces.here⟩

end Points

/-- A small write to an empty tree. -/
def sampleWrite (mode : Nat) : Written WriteError Unit :=
  writeFileOn none Tree.empty (utf8 "f") (utf8 "data") mode 0o755 fun _ => utf8 "7"

theorem sampleWrite_intact :
    (sampleWrite 0o600).result = .ok () ∧
      ((sampleWrite 0o600).final Tree.empty).fileAt? (utf8 "f") = some (0o600, utf8 "data") ∧
      ∃ temporary : Option (Bytes × Location),
        (∀ u ∈ (sampleWrite 0o600).trees,
          Intact Tree.empty (utf8 "f") (utf8 "data") 0o600 (temporary.map (·.2)) u) ∧
        ∀ name l, temporary = some (name, l) →
          Temporary Tree.empty (sampleWrite 0o600) (utf8 "f") 0o600 (fun _ => utf8 "7") name l := by
  have hdigits : ∀ i : Nat, ∀ b ∈ (fun _ => utf8 "7") i, Bytes.isDigit b = true := by
    intro _
    exact List.all_eq_true.mp (by decide : (utf8 "7").all Bytes.isDigit = true)
  have hok : (sampleWrite 0o600).result = .ok () := by decide +kernel
  obtain ⟨htemporary, hdone, -⟩ :=
    writeFile_intact none closed_empty (utf8 "f") (utf8 "data") 0o600 0o755 hdigits
  exact ⟨hok, hdone hok, htemporary⟩

/-- Bits above the nine permission bits never reach the file. -/
theorem sampleWrite_setuid_lost :
    ¬∀ u ∈ (sampleWrite 0o4755).trees,
      u.fileAt? (utf8 "f") = Tree.empty.fileAt? (utf8 "f") ∨
        u.fileAt? (utf8 "f") = some (0o4755, utf8 "data") := by
  decide +kernel

end DocPull.Files
