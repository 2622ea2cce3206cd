import DocPull.Proofs.Bytes
import DocPull.Proofs.Files.AtomicWrite
import DocPull.Proofs.Text.Line

/-!
# Where names lead

The place that a name means can be told from the name alone, as long as it leads anywhere. Cleaning
a name keeps its place, the place of a name is one step from the place of its directory, and the
places of the directories above a cleaned name are prefixes of its own.
-/
open DocPull.Files.Tree

namespace DocPull

namespace Bytes

variable {sep : UInt8}

theorem cutLast_eq_some {s before after : Bytes} (h : cutLast sep s = some (before, after)) :
    s = before ++ sep :: after ∧ sep ∉ after := by
  obtain ⟨⟨p, q⟩, hcut, hpq⟩ := Option.map_eq_some_iff.mp h
  simp only [Prod.mk.injEq] at hpq
  obtain ⟨rfl, rfl⟩ := hpq
  obtain ⟨hs, hp⟩ := eq_of_cut hcut
  refine ⟨?_, by simpa using hp⟩
  rw [← List.reverse_reverse s, hs]
  simp

theorem cutLast_eq_none {s : Bytes} (h : cutLast sep s = none) : sep ∉ s := by
  simpa [cutLast, cut_eq_none_iff] using h

theorem endsWith_singleton_iff {s : Bytes} :
    endsWith s [sep] = true ↔ ∃ before, s = before ++ [sep] := by
  rw [endsWith_iff]
  exact exists_congr fun before => eq_comm

theorem endsWith_slash_iff {s : Bytes} :
    endsWith s (utf8 "/") = true ↔ ∃ before, s = before ++ [byte '/'] :=
  endsWith_singleton_iff

theorem trimEnd_eq_self (before : Bytes) {after : Bytes} (hne : after ≠ []) (h : sep ∉ after) :
    trimEnd sep (before ++ after) = before ++ after := by
  rw [trimEnd]
  rcases List.eq_nil_or_concat after with rfl | ⟨rest, x, rfl⟩
  · exact absurd rfl hne
  · have hx : (x == sep) = false := by
      simp only [List.concat_eq_append, List.mem_append, List.mem_singleton, not_or] at h
      simpa using Ne.symm h.2
    simp [hx]

end Bytes

namespace Files

/-- A component that names an entry of a directory. -/
structure IsEntryName (c : Bytes) : Prop where
  ne_nil : c ≠ []
  ne_dot : c ≠ utf8 "."
  ne_dots : c ≠ utf8 ".."
  no_slash : byte '/' ∉ c

/-- Where a component leads to from a location, whatever is there. -/
def stepTo (l : Location) (c : Bytes) : Location :=
  if c = utf8 "." then l else if c = utf8 ".." then above l else l ++ [c]

/-- The components of a name that are not empty. -/
def named (path : Bytes) : List Bytes := (Path.components path).filter fun c => !c.isEmpty

/-- The location that a name means, whatever is there. -/
def place (path : Bytes) : Location := (named path).foldl stepTo (start path)

@[simp] theorem stepTo_dot (l : Location) : stepTo l (utf8 ".") = l := by simp [stepTo]

theorem stepTo_dots (l : Location) : stepTo l (utf8 "..") = above l := by
  rw [stepTo, if_neg (by decide), if_pos rfl]

theorem stepTo_entry (l : Location) {c : Bytes} (h : IsEntryName c) : stepTo l c = l ++ [c] := by
  rw [stepTo, if_neg h.ne_dot, if_neg h.ne_dots]

theorem isAnchor_concat (l : Location) {c : Bytes} (h : IsEntryName c) :
    isAnchor (l ++ [c]) = false := by
  have hslash : c ≠ utf8 "/" := fun hc => h.no_slash (by rw [hc]; decide)
  have hroot : l ++ [c] ≠ [utf8 "/"] := by
    intro he
    exact hslash (by simpa using congrArg List.getLast? he)
  have houtside : l ++ [c] ≠ [utf8 ".."] := by
    intro he
    exact h.ne_dots (by simpa using congrArg List.getLast? he)
  simp [isAnchor, root, outside, hroot, houtside]

theorem above_concat (l : Location) {c : Bytes} (h : IsEntryName c) : above (l ++ [c]) = l := by
  simp [above, isAnchor_concat l h]

section Named

theorem named_slash (a b : Bytes) : named (a ++ byte '/' :: b) = named a ++ named b := by
  simp only [named, Path.components, Bytes.split_append, List.filter_append]

@[simp] theorem named_nil : named [] = [] := rfl

theorem named_of_no_slash {c : Bytes} (hne : c ≠ []) (h : byte '/' ∉ c) : named c = [c] := by
  simp [named, Path.components, Bytes.split_of_not_mem h, hne]

theorem named_join {cs : List Bytes} (h : ∀ c ∈ cs, c ≠ [] ∧ byte '/' ∉ c) :
    named (Bytes.join (utf8 "/") cs) = cs := by
  induction cs with
  | nil => rfl
  | cons c cs ih =>
    obtain ⟨hne, hslash⟩ := h c (by simp)
    cases cs with
    | nil =>
      rw [Bytes.join, List.intercalate_singleton]
      exact named_of_no_slash hne hslash
    | cons d cs =>
      have hjoin : Bytes.join (utf8 "/") (c :: d :: cs) =
          c ++ byte '/' :: Bytes.join (utf8 "/") (d :: cs) := Bytes.join_cons_cons _ _ _
      rw [hjoin, named_slash, named_of_no_slash hne hslash,
        ih fun e he => h e (List.mem_cons_of_mem _ he)]
      rfl

/-- A name of components starts at the working directory. -/
theorem head?_join {cs : List Bytes} (h : ∀ c ∈ cs, c ≠ [] ∧ byte '/' ∉ c) :
    (Bytes.join (utf8 "/") cs).head? ≠ some (byte '/') := by
  intro hhead
  obtain ⟨rest, hrest⟩ := List.head?_eq_some_iff.mp hhead
  cases cs with
  | nil => simp [Bytes.join] at hrest
  | cons c cs =>
    obtain ⟨hne, hslash⟩ := h c (by simp)
    obtain ⟨x, c', rfl⟩ := List.exists_cons_of_ne_nil hne
    have hx : x = byte '/' := by
      cases cs with
      | nil =>
        rw [Bytes.join, List.intercalate_singleton] at hrest
        exact (List.cons.inj hrest).1
      | cons d cs =>
        rw [Bytes.join, List.intercalate_cons_cons] at hrest
        exact (List.cons.inj hrest).1
    exact hslash (by simp [hx])

end Named

section Clean

/-- Two dots come before everything else, and not at all below the root. -/
structure DotsFirst (rooted : Bool) (cs : List Bytes) : Prop where
  first : cs.Pairwise fun a b => b = utf8 ".." → a = utf8 ".."
  relative : rooted = true → utf8 ".." ∉ cs

theorem DotsFirst.sublist {rooted : Bool} {cs ds : List Bytes} (h : DotsFirst rooted cs)
    (hds : ds.Sublist cs) : DotsFirst rooted ds :=
  ⟨h.first.sublist hds, fun hr hmem => h.relative hr (hds.subset hmem)⟩

theorem DotsFirst.concat {rooted : Bool} {cs : List Bytes} {c : Bytes} (h : DotsFirst rooted cs)
    (hc : c = utf8 ".." → rooted = false ∧ ∀ a ∈ cs, a = utf8 "..") :
    DotsFirst rooted (cs ++ [c]) := by
  constructor
  · rw [List.pairwise_append]
    refine ⟨h.first, by simp, ?_⟩
    intro a ha b hb hdots
    rw [List.mem_singleton] at hb
    exact (hc (hb ▸ hdots)).2 a ha
  · intro hr hmem
    rcases List.mem_append.mp hmem with hmem | hmem
    · exact h.relative hr hmem
    · rw [List.mem_singleton] at hmem
      rw [(hc hmem.symm).1] at hr
      cases hr

theorem DotsFirst.all_of_concat {rooted : Bool} {cs : List Bytes}
    (h : DotsFirst rooted (cs ++ [utf8 ".."])) : rooted = false ∧ ∀ a ∈ cs, a = utf8 ".." := by
  constructor
  · by_contra hr
    exact h.relative (by simpa using hr) (by simp)
  · intro a ha
    exact (List.pairwise_append.mp h.first).2.2 a ha _ (by simp) rfl

/-- What cleaning keeps, first component first. -/
structure Cleaned (rooted : Bool) (cs : List Bytes) : Prop where
  component : ∀ c ∈ cs, c ≠ [] ∧ c ≠ utf8 "." ∧ byte '/' ∉ c
  dotsFirst : DotsFirst rooted cs

theorem Cleaned.concat {rooted : Bool} {cs : List Bytes} {c : Bytes} (h : Cleaned rooted cs)
    (hcomponent : c ≠ [] ∧ c ≠ utf8 "." ∧ byte '/' ∉ c)
    (hc : c = utf8 ".." → rooted = false ∧ ∀ a ∈ cs, a = utf8 "..") :
    Cleaned rooted (cs ++ [c]) := by
  refine ⟨?_, h.dotsFirst.concat hc⟩
  intro d hd
  rcases List.mem_append.mp hd with hd | hd
  · exact h.component d hd
  · rw [List.mem_singleton.mp hd]
    exact hcomponent

/-- Where the components of a name start. -/
def origin (rooted : Bool) : Location := if rooted then root else []

/-- What is kept after two dots, the last component first. -/
def climb (rooted : Bool) : List Bytes → List Bytes
  | [] => if rooted then [] else [utf8 ".."]
  | k :: ks => if k = utf8 ".." then utf8 ".." :: k :: ks else ks

/-- What is kept after one more component, the last one first. -/
def keepNext (rooted : Bool) (kept : List Bytes) (c : Bytes) : List Bytes :=
  if c = [] ∨ c = utf8 "." then kept
  else if c = utf8 ".." then climb rooted kept
  else c :: kept

theorem cleanComponents_cons (rooted : Bool) (kept : List Bytes) (c : Bytes) (cs : List Bytes) :
    Path.cleanComponents rooted kept (c :: cs) =
      Path.cleanComponents rooted (keepNext rooted kept c) cs := by
  rw [Path.cleanComponents.eq_def]
  dsimp only [keepNext]
  by_cases hskip : c = [] ∨ c = utf8 "."
  · simp only [if_pos hskip]
  by_cases hdots : c = utf8 ".."
  · subst hdots
    rw [if_neg hskip, if_neg hskip, if_pos rfl, if_pos rfl]
    cases kept with
    | nil => rfl
    | cons k ks =>
      dsimp only [climb]
      split_ifs <;> rfl
  · simp only [if_neg hskip, if_neg hdots]

theorem climb_cleaned {rooted : Bool} {kept : List Bytes} (h : Cleaned rooted kept.reverse) :
    Cleaned rooted (climb rooted kept).reverse := by
  have hcomponent : utf8 ".." ≠ [] ∧ utf8 ".." ≠ utf8 "." ∧ byte '/' ∉ utf8 ".." := by decide
  cases kept with
  | nil =>
    cases rooted with
    | true => exact h
    | false => exact h.concat hcomponent fun _ => ⟨rfl, by simp⟩
  | cons k ks =>
    rw [climb]
    split_ifs with hk
    · subst hk
      rw [List.reverse_cons]
      refine h.concat hcomponent fun _ => ?_
      rw [List.reverse_cons] at h ⊢
      obtain ⟨hr, hall⟩ := h.dotsFirst.all_of_concat
      refine ⟨hr, fun a ha => ?_⟩
      rcases List.mem_append.mp ha with ha | ha
      · exact hall a ha
      · exact List.mem_singleton.mp ha
    · rw [List.reverse_cons] at h
      exact ⟨fun d hd => h.component d (List.mem_append_left _ hd),
        h.dotsFirst.sublist (List.sublist_append_left _ _)⟩

theorem climb_place {rooted : Bool} {kept : List Bytes} (h : Cleaned rooted kept.reverse) :
    (climb rooted kept).reverse.foldl stepTo (origin rooted) =
      above (kept.reverse.foldl stepTo (origin rooted)) := by
  rw [← stepTo_dots]
  cases kept with
  | nil => cases rooted <;> rfl
  | cons k ks =>
    rw [climb]
    split_ifs with hk
    · simp only [List.reverse_cons, List.foldl_append, List.foldl_cons, List.foldl_nil]
    · -- The last kept component is an entry, so two dots lead back to where it was looked up.
      rw [List.reverse_cons] at h ⊢
      obtain ⟨hkne, hkdot, hkslash⟩ := h.component k (by simp)
      have hentry : IsEntryName k := ⟨hkne, hkdot, hk, hkslash⟩
      rw [List.foldl_append, List.foldl_cons, List.foldl_nil, stepTo_entry _ hentry,
        stepTo_dots, above_concat _ hentry]

/-- One component more keeps what is kept clean. -/
theorem keepNext_cleaned {rooted : Bool} {kept : List Bytes} {c : Bytes}
    (h : Cleaned rooted kept.reverse) (hslash : byte '/' ∉ c) :
    Cleaned rooted (keepNext rooted kept c).reverse := by
  rw [keepNext]
  split_ifs with hskip hdots
  · exact h
  · exact climb_cleaned h
  · obtain ⟨hne, hdot⟩ := not_or.mp hskip
    rw [List.reverse_cons]
    exact h.concat ⟨hne, hdot, hslash⟩ fun hc => absurd hc hdots

/-- One component more leads one step further. -/
theorem keepNext_place {rooted : Bool} {kept : List Bytes} (h : Cleaned rooted kept.reverse)
    {c : Bytes} (hne : c ≠ []) :
    (keepNext rooted kept c).reverse.foldl stepTo (origin rooted) =
      stepTo (kept.reverse.foldl stepTo (origin rooted)) c := by
  rw [keepNext]
  split_ifs with hskip hdots
  · obtain rfl := hskip.resolve_left hne
    rw [stepTo_dot]
  · rw [climb_place h, hdots, stepTo_dots]
  · simp only [List.reverse_cons, List.foldl_append, List.foldl_cons, List.foldl_nil]

/-- Cleaning keeps the place that the components lead to. -/
theorem cleanComponents_spec {rooted : Bool} {kept : List Bytes} (h : Cleaned rooted kept.reverse)
    {cs : List Bytes} (hcs : ∀ c ∈ cs, byte '/' ∉ c) :
    Cleaned rooted (Path.cleanComponents rooted kept cs).reverse ∧
      (Path.cleanComponents rooted kept cs).reverse.foldl stepTo (origin rooted) =
        (cs.filter fun c => !c.isEmpty).foldl stepTo
          (kept.reverse.foldl stepTo (origin rooted)) := by
  induction cs generalizing kept with
  | nil => exact ⟨h, rfl⟩
  | cons c cs ih =>
    obtain ⟨hslash, hrest⟩ := List.forall_mem_cons.mp hcs
    obtain ⟨hclean, hplace⟩ := ih (keepNext_cleaned h hslash) hrest
    rw [cleanComponents_cons]
    refine ⟨hclean, hplace.trans ?_⟩
    by_cases hne : c = []
    · subst hne
      rfl
    · rw [keepNext_place h hne, List.filter_cons_of_pos (by simpa using hne), List.foldl_cons]

/-- Whether a name starts with a slash. -/
def isRooted (path : Bytes) : Bool := path.head? == some (byte '/')

theorem start_eq (path : Bytes) : start path = origin (isRooted path) := by
  simp [start, origin, isRooted]

/-- What cleaning a name comes to. -/
theorem clean_spec (path : Bytes) :
    place (Path.clean path) = place path ∧ Path.clean path ≠ [] ∧
      DotsFirst (isRooted (Path.clean path)) (named (Path.clean path)) := by
  have hempty : Cleaned (isRooted path) ([] : List Bytes).reverse := by
    refine ⟨by simp, by simp, by simp⟩
  obtain ⟨hcleaned, hplace⟩ := cleanComponents_spec hempty
    fun c (hc : c ∈ Path.components path) => Bytes.not_mem_of_mem_split hc
  have hmembers := fun c hc => (hcleaned.component c hc).imp_right And.right
  have hnamed := named_join hmembers
  have hhead := head?_join hmembers
  rw [show Path.clean path = if isRooted path then
    byte '/' :: Bytes.join (utf8 "/")
      (Path.cleanComponents (isRooted path) [] (Path.components path)).reverse
    else if Bytes.join (utf8 "/")
      (Path.cleanComponents (isRooted path) [] (Path.components path)).reverse = [] then utf8 "."
    else Bytes.join (utf8 "/")
      (Path.cleanComponents (isRooted path) [] (Path.components path)).reverse from rfl]
  generalize (Path.cleanComponents (isRooted path) [] (Path.components path)).reverse = cs at *
  have hfrom : place path = cs.foldl stepTo (origin (isRooted path)) := by
    rw [hplace, place, start_eq]
    rfl
  cases hrooted : isRooted path with
  | true =>
    rw [hrooted] at hfrom hcleaned
    have hslash : named (byte '/' :: Bytes.join (utf8 "/") cs) = cs := by
      rw [← List.nil_append (byte '/' :: _), named_slash, hnamed]
      rfl
    refine ⟨?_, by simp, ?_⟩
    · rw [if_pos rfl, hfrom, place, start_eq, hslash]
      rfl
    · rw [if_pos rfl, hslash]
      exact hcleaned.dotsFirst
  | false =>
    rw [hrooted] at hfrom hcleaned
    simp only [Bool.false_eq_true, if_false]
    by_cases hbody : Bytes.join (utf8 "/") cs = []
    · rw [if_pos hbody]
      rw [hbody] at hnamed
      subst hnamed
      exact ⟨hfrom.symm, by decide, by decide, by decide⟩
    · rw [if_neg hbody]
      have hrel : isRooted (Bytes.join (utf8 "/") cs) = false := by
        simpa [isRooted] using hhead
      refine ⟨?_, hbody, ?_⟩
      · rw [hfrom, place, start_eq, hrel, hnamed]
      · rw [hnamed, hrel]
        exact hcleaned.dotsFirst

end Clean

section Dir

/-- The part of a name after its last slash. -/
def lastPart (path : Bytes) : Bytes :=
  match Bytes.cutLast (byte '/') path with
  | some (_, last) => last
  | none => path

/-- A name is its last part, perhaps after a slash. -/
theorem lastPart_spec (path : Bytes) : byte '/' ∉ lastPart path ∧
    (path = lastPart path ∧ Path.dir path = utf8 "." ∨
      ∃ before, path = before ++ byte '/' :: lastPart path ∧
        Path.dir path = Path.clean (before ++ [byte '/'])) := by
  rw [lastPart, Path.dir]
  cases hcut : Bytes.cutLast (byte '/') path with
  | none => exact ⟨Bytes.cutLast_eq_none hcut, .inl ⟨rfl, rfl⟩⟩
  | some parts =>
    obtain ⟨before, last⟩ := parts
    obtain ⟨hpath, hlast⟩ := Bytes.cutLast_eq_some hcut
    exact ⟨hlast, .inr ⟨before, hpath, rfl⟩⟩

theorem dir_ne_nil (path : Bytes) : Path.dir path ≠ [] := by
  obtain ⟨-, ⟨-, hdir⟩ | ⟨before, -, hdir⟩⟩ := lastPart_spec path
  · rw [hdir]
    decide
  · rw [hdir]
    exact (clean_spec _).2.1

theorem dir_dotsFirst (path : Bytes) :
    DotsFirst (isRooted (Path.dir path)) (named (Path.dir path)) := by
  obtain ⟨-, ⟨-, hdir⟩ | ⟨before, -, hdir⟩⟩ := lastPart_spec path
  · rw [hdir]
    exact ⟨by decide, by decide⟩
  · rw [hdir]
    exact (clean_spec _).2.2

/-- The place of a name is one step from the place of its directory. -/
theorem place_eq_dir (path : Bytes) :
    place path = (named (lastPart path)).foldl stepTo (place (Path.dir path)) := by
  obtain ⟨hslash, ⟨hpath, hdir⟩ | ⟨before, hpath, hdir⟩⟩ := lastPart_spec path
  · have hstart : start path = [] := by
      refine if_neg fun hhead => hslash ?_
      rw [← hpath]
      exact List.mem_of_mem_head? hhead
    rw [hdir, ← hpath, place, hstart]
    rfl
  · have hstart : start path = start (before ++ [byte '/']) := by
      rw [hpath, start, start]
      cases before <;> rfl
    have hnamed : named path = named (before ++ [byte '/']) ++ named (lastPart path) := by
      rw [named_slash, named_nil, List.append_nil, ← named_slash, ← hpath]
    rw [hdir, (clean_spec _).1, place, place, hstart, hnamed, List.foldl_append]

theorem base_eq_lastPart {path : Bytes} (h : lastPart path ≠ []) :
    Path.base path = lastPart path := by
  have htrim : path ≠ [] ∧ Bytes.trimEnd (byte '/') path = path := by
    obtain ⟨hslash, ⟨hpath, -⟩ | ⟨before, hpath, -⟩⟩ := lastPart_spec path
    · have htrim := Bytes.trimEnd_eq_self [] h hslash
      rw [List.nil_append, ← hpath] at htrim
      exact ⟨hpath ▸ h, htrim⟩
    · have htrim := Bytes.trimEnd_eq_self (before ++ [byte '/']) h hslash
      rw [List.append_assoc, List.singleton_append, ← hpath] at htrim
      refine ⟨?_, htrim⟩
      rw [hpath]
      simp
  cases hcut : Bytes.cutLast (byte '/') path with
  | none => simp [Path.base, lastPart, htrim, hcut]
  | some parts => simp [Path.base, lastPart, htrim, hcut]

theorem inside_eq_append (dir name : Bytes) :
    ∃ between, Path.inside dir name = dir ++ between ++ name := by
  rw [Path.inside]
  split_ifs
  · exact ⟨[], by simp⟩
  · exact ⟨utf8 "/", by simp⟩

theorem start_inside {dir name : Bytes} (hdir : dir ≠ []) :
    start (Path.inside dir name) = start dir := by
  obtain ⟨between, hinside⟩ := inside_eq_append dir name
  obtain ⟨x, rest, rfl⟩ := List.exists_cons_of_ne_nil hdir
  rw [hinside]
  rfl

theorem named_inside {dir name : Bytes} (hname : IsEntryName name) :
    named (Path.inside dir name) = named dir ++ [name] := by
  have hlast : named name = [name] := named_of_no_slash hname.ne_nil hname.no_slash
  rw [Path.inside]
  split_ifs with hends
  · obtain ⟨before, rfl⟩ := Bytes.endsWith_slash_iff.mp hends
    rw [List.append_assoc, List.singleton_append, named_slash, named_slash, named_nil,
      List.append_nil, hlast]
  · have htext : text [dir, utf8 "/", name] = dir ++ byte '/' :: name := by
      simp [show utf8 "/" = [byte '/'] from rfl]
    rw [htext, named_slash, hlast]

end Dir

section Encloses

theorem foldl_stepTo_dots {cs : List Bytes} (h : ∀ c ∈ cs, c = utf8 "..") :
    cs.foldl stepTo outside = outside := by
  induction cs with
  | nil => rfl
  | cons c cs ih =>
    obtain ⟨rfl, hrest⟩ := List.forall_mem_cons.mp h
    exact ih hrest

/-- The place of the directory above a cleaned name is a prefix of its place. -/
theorem place_parent {dir upper : Bytes} (h : DotsFirst (isRooted dir) (named dir))
    (hparent : parent? dir = some upper) :
    DotsFirst (isRooted upper) (named upper) ∧ place upper <+: place dir := by
  obtain ⟨last, hne, hdir, hslash⟩ : ∃ last, upper ≠ [] ∧ dir = upper ++ byte '/' :: last ∧
      byte '/' ∉ last := by
    rw [parent?] at hparent
    split at hparent
    · rename_i above last hcut
      split_ifs at hparent with hne
      cases hparent
      obtain ⟨hdir, hslash⟩ := Bytes.cutLast_eq_some hcut
      exact ⟨last, hne, hdir, hslash⟩
    · cases hparent
  have hnamed : named dir = named upper ++ named last := by rw [hdir, named_slash]
  have hrooted : isRooted dir = isRooted upper := by
    obtain ⟨x, rest, rfl⟩ := List.exists_cons_of_ne_nil hne
    rw [hdir]
    rfl
  have hplace : place dir = (named last).foldl stepTo (place upper) := by
    rw [place, place, hnamed, start_eq, start_eq, hrooted, List.foldl_append]
  rw [hrooted] at h
  refine ⟨h.sublist (hnamed ▸ List.sublist_append_left _ _), ?_⟩
  by_cases hlast : last = []
  · rw [hplace, hlast]
    exact List.prefix_rfl
  rw [named_of_no_slash hlast hslash] at hnamed hplace
  rw [hplace, List.foldl_cons, List.foldl_nil]
  by_cases hdots : last = utf8 ".."
  · -- Two dots at the end have nothing but two dots before them.
    rw [hnamed, hdots] at h
    obtain ⟨hrelative, hall⟩ := h.all_of_concat
    rw [place, start_eq, hrelative, hdots]
    cases hupper : named upper with
    | nil => exact List.nil_prefix
    | cons c cs =>
      rw [hupper] at hall
      obtain ⟨rfl, hrest⟩ := List.forall_mem_cons.mp hall
      have hout : (utf8 ".." :: cs).foldl stepTo (origin false) = outside :=
        foldl_stepTo_dots hrest
      rw [hout]
      exact List.prefix_rfl
  · rw [stepTo, if_neg hdots]
    split_ifs
    · exact List.prefix_rfl
    · exact List.prefix_append _ _

theorem Encloses.place_prefix {outer dir : Bytes} (h : Encloses outer dir)
    (hdir : DotsFirst (isRooted dir) (named dir)) : place outer <+: place dir := by
  induction h with
  | self => exact List.prefix_rfl
  | above hparent _ ih =>
    obtain ⟨hupper, hprefix⟩ := place_parent hdir hparent
    exact (ih hupper).trans hprefix

end Encloses

end Files

end DocPull
