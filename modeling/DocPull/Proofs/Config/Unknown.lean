import DocPull.Proofs.Config.Resolve
import DocPull.Proofs.Config.Suggestion
import DocPull.Proofs.Text.Line

/-!
# Reports on unknown keys

Unknown keys are reported in document order: each one below a section on a line of its own, and a
name at the top that is no section once. What counts as a section here is its exact name. A document
may also write it in another case, and then all unknown keys below it become one report on the name
at the top.
-/
open DocPull.Files

namespace DocPull

namespace Config

/-- What a report is about: a key below a section, or a name at the top. -/
inductive Subject where
  | inSection (sectionName key : Bytes)
  | atTop (name : Bytes)
  deriving DecidableEq, Repr

/-- The words that name what a report is about. -/
def Subject.words : Subject → Bytes
  | inSection s key => text ["unknown config key ", Quoted.quote key, " in [", s, "]"]
  | atTop name => text ["unknown config key ", Quoted.quote name]

/-- What a report on an unknown key is about. -/
def UnknownKey.subject : UnknownKey → Subject
  | inSection s key _ => .inSection s key
  | misplaced key _ | atTop key _ => .atTop key

/-- A report names what it is about, and then suggests what may have been meant. -/
theorem UnknownKey.message_eq (r : UnknownKey) :
    ∃ suggestion, r.message = r.subject.words ++ suggestion := by
  cases r <;> simp [message, subject, Subject.words]

/-- The name at the top that a key begins with. -/
def top (key : Toml.Key) : Bytes := key.headD []

/-- What a report on a key is about, given the keys before it: the key when its name at the top is
that of a section, and else this name when no key before begins with it. -/
def subject? (isSection : Bytes → Bool) (before : List Toml.Key) (key : Toml.Key) :
    Option Subject :=
  if isSection (top key) then some (.inSection (top key) (Bytes.join "." key.tail))
  else if top key ∈ before.map top then none
  else some (.atTop (top key))

/-- What the reports on keys are about, in order, each one given the keys before it. -/
def subjectsAfter (isSection : Bytes → Bool) : (before keys : List Toml.Key) → List Subject
  | _, [] => []
  | before, key :: keys =>
    (subject? isSection before key).toList ++ subjectsAfter isSection (before ++ [key]) keys

/-- What the reports on all unknown keys are about, given which names at the top are those of
sections. -/
def subjects (isSection : Bytes → Bool) (keys : List Toml.Key) : List Subject :=
  subjectsAfter isSection [] keys

/-- Whether a section has exactly this name. -/
def isExact (name : Bytes) : Bool := (exactSection? name).isSome

/-- Whether a document means a section by this name. -/
def isMatched (name : Bytes) : Bool := (section? name).isSome

theorem isMatched_of_isExact {name : Bytes} (h : isExact name = true) : isMatched name = true := by
  obtain ⟨s, hs⟩ := Option.isSome_iff_exists.mp h
  have hsection : section? name = some s := by
    unfold exactSection? at hs
    simp [section?, named?, hs]
  exact Option.isSome_iff_exists.mpr ⟨s, hsection⟩

theorem oneLine_of_isExact {name : Bytes} (h : isExact name = true) : OneLine name := by
  obtain ⟨s, hs⟩ := Option.isSome_iff_exists.mp h
  have hname := List.find?_some hs
  rw [← beq_iff_eq.mp hname]
  cases s <;> decide

theorem oneLine_message_reportTop (name : Bytes) : OneLine (reportTop name).message := by
  have hsection (s : Section) : OneLine (utf8 s.name) := by
    cases s <;> decide
  unfold reportTop
  split
  · rename_i s _
    simp +decide [UnknownKey.message, Quoted.oneLine_quote, hsection s]
  · cases hnearest : EditDistance.closest? name (Section.all.map fun s => utf8 s.name) with
    | none => simp +decide [UnknownKey.message, Quoted.oneLine_quote]
    | some n =>
      obtain ⟨s, -, rfl⟩ := List.mem_map.mp (EditDistance.mem_of_closest? hnearest)
      simp +decide [UnknownKey.message, Quoted.oneLine_quote, hsection s]

/-- A report takes one line. Names that it does not quote are those of sections. -/
theorem oneLine_message_reportKey (key : Toml.Key) : OneLine (reportKey key).message := by
  unfold reportKey
  split
  · exact oneLine_message_reportTop _
  · exact oneLine_message_reportTop _
  · rename_i s f rest
    split
    · exact oneLine_message_reportTop _
    · rename_i sec hsec
      have hexact : OneLine s := oneLine_of_isExact (Option.isSome_iff_exists.mpr ⟨sec, hsec⟩)
      cases EditDistance.closest? f (sortedNames sec) <;>
        simp +decide [UnknownKey.message, Quoted.oneLine_quote, hexact]

theorem subject_reportTop (name : Bytes) : (reportTop name).subject = .atTop name := by
  unfold reportTop
  split <;> rfl

theorem subject_reportKey {key : Toml.Key} (h : isExact (top key) = true → 2 ≤ key.length) :
    (reportKey key).subject =
      if isExact (top key) then .inSection (top key) (Bytes.join "." key.tail)
      else .atTop (top key) := by
  match key with
  | [] =>
    have hno : isExact (top []) = false := by decide
    rw [hno]
    exact subject_reportTop []
  | [s] =>
    rw [if_neg fun hexact => absurd (h hexact) (by simp)]
    exact subject_reportTop s
  | s :: f :: rest =>
    unfold reportKey isExact
    cases hs : exactSection? s with
    | none => simp [top, hs, subject_reportTop]
    | some sec => simp [top, hs, UnknownKey.subject]

theorem reportKeys_cons (reported : List Bytes) (key : Toml.Key) (keys : List Toml.Key) :
    reportKeys reported (key :: keys) =
      if isExact (top key) then reportKey key :: reportKeys reported keys
      else if top key ∈ reported then reportKeys reported keys
      else reportKey key :: reportKeys (top key :: reported) keys := by
  simp only [← List.contains_iff_mem]
  rfl

theorem eq_reportKey_of_mem {reported : List Bytes} {keys : List Toml.Key} {r : UnknownKey}
    (h : r ∈ reportKeys reported keys) : ∃ key ∈ keys, r = reportKey key := by
  induction keys generalizing reported with
  | nil => cases h
  | cons key keys ih =>
    have hlater {reported : List Bytes} (h : r ∈ reportKeys reported keys) :
        ∃ k ∈ key :: keys, r = reportKey k := by
      obtain ⟨k, hk, rfl⟩ := ih h
      exact ⟨k, List.mem_cons_of_mem _ hk, rfl⟩
    rw [reportKeys_cons] at h
    split_ifs at h
    · rcases List.mem_cons.mp h with rfl | h
      · exact ⟨key, List.mem_cons_self, rfl⟩
      · exact hlater h
    · exact hlater h
    · rcases List.mem_cons.mp h with rfl | h
      · exact ⟨key, List.mem_cons_self, rfl⟩
      · exact hlater h

/-- Every report has one line of the message, and every line is one report. -/
theorem split_message_unknown {reported : List Bytes} {keys : List Toml.Key}
    (h : reportKeys reported keys ≠ []) :
    Bytes.split (byte '\n') (Error.message (.unknown (reportKeys reported keys))) =
      (reportKeys reported keys).map UnknownKey.message := by
  refine Bytes.split_join (by simpa using h) fun line hline => ?_
  obtain ⟨r, hr, rfl⟩ := List.mem_map.mp hline
  obtain ⟨key, -, rfl⟩ := eq_reportKey_of_mem hr
  exact oneLine_message_reportKey key

/-- The pass over the keys remembers the names that it reported. They are the names at the top of
the keys before, as far as these are no sections. -/
theorem map_subject_reportKeys {reported : List Bytes} {before keys : List Toml.Key}
    (hkeys : ∀ key ∈ keys, isExact (top key) = true → 2 ≤ key.length)
    (hreported : ∀ name, isExact name = false → (name ∈ reported ↔ name ∈ before.map top)) :
    (reportKeys reported keys).map UnknownKey.subject = subjectsAfter isExact before keys := by
  induction keys generalizing reported before with
  | nil => rfl
  | cons key keys ih =>
    have hkey := subject_reportKey (hkeys key List.mem_cons_self)
    have hrest : ∀ k ∈ keys, isExact (top k) = true → 2 ≤ k.length := fun k hk =>
      hkeys k (List.mem_cons_of_mem _ hk)
    have hsnoc (name : Bytes) :
        name ∈ (before ++ [key]).map top ↔ name ∈ before.map top ∨ name = top key := by
      simp
    rw [reportKeys_cons, subjectsAfter, subject?]
    by_cases hexact : isExact (top key) = true
    · rw [if_pos hexact] at hkey
      rw [if_pos hexact, if_pos hexact, List.map_cons, hkey, Option.toList_some,
        List.singleton_append, ih hrest fun name hno => ?_]
      rw [hsnoc, hreported name hno, or_iff_left]
      rintro rfl
      rw [hexact] at hno
      cases hno
    rw [if_neg hexact] at hkey
    have htop := hreported (top key) (Bool.not_eq_true _ ▸ hexact)
    by_cases hmem : top key ∈ reported
    · rw [if_neg hexact, if_pos hmem, if_neg hexact, if_pos (htop.mp hmem), Option.toList_none,
        List.nil_append, ih hrest fun name hno => ?_]
      rw [hsnoc, ← hreported name hno, or_iff_left_of_imp]
      rintro rfl
      exact hmem
    · rw [if_neg hexact, if_neg hmem, if_neg hexact, if_neg (htop.not.mp hmem), List.map_cons, hkey,
        Option.toList_some, List.singleton_append, ih hrest fun name hno => ?_]
      rw [hsnoc, ← hreported name hno, List.mem_cons, or_comm]

/-- An unknown key below a section has more than one part, because the section itself is known. -/
theorem length_of_mem_unknownKeys {d : Toml.Document} {key : Toml.Key} (h : key ∈ unknownKeys d)
    (hmatched : isMatched (top key) = true) : 2 ≤ key.length := by
  have hunknown : (!isKnown key) = true := (List.mem_filter.mp h).2
  match key with
  | [] => exact absurd hmatched (by decide +kernel)
  | [s] =>
    have hknown : isKnown [s] = true := hmatched
    rw [hknown] at hunknown
    cases hunknown
  | _ :: _ :: _ => simp

theorem map_subject_reports (d : Toml.Document) :
    (reportKeys [] (unknownKeys d)).map UnknownKey.subject = subjects isExact (unknownKeys d) :=
  map_subject_reportKeys
    (fun _ hkey hexact => length_of_mem_unknownKeys hkey (isMatched_of_isExact hexact))
    (fun _ _ => by simp)

section Subjects

variable {isSection : Bytes → Bool} {before keys : List Toml.Key} {key : Toml.Key}

theorem isSection_of_mem_subjectsAfter {s k : Bytes}
    (h : Subject.inSection s k ∈ subjectsAfter isSection before keys) : isSection s = true := by
  induction keys generalizing before with
  | nil => cases h
  | cons key keys ih =>
    rcases List.mem_append.mp h with h | h
    · rw [Option.mem_toList, subject?] at h
      split_ifs at h with hsection
      · cases h
        exact hsection
      · cases h
    · exact ih h

theorem inSection_mem_subjectsAfter (h : key ∈ keys) (hsection : isSection (top key) = true) :
    .inSection (top key) (Bytes.join "." key.tail) ∈ subjectsAfter isSection before keys := by
  induction keys generalizing before with
  | nil => cases h
  | cons first keys ih =>
    rcases List.mem_cons.mp h with rfl | h
    · simp [subjectsAfter, subject?, hsection]
    · exact List.mem_append_right _ (ih h)

theorem subjectsAfter_congr {isSection' : Bytes → Bool}
    (h : ∀ key ∈ keys, isSection (top key) = isSection' (top key)) :
    subjectsAfter isSection before keys = subjectsAfter isSection' before keys := by
  induction keys generalizing before with
  | nil => rfl
  | cons key keys ih =>
    rw [subjectsAfter, subjectsAfter, subject?, subject?, h key List.mem_cons_self,
      ih fun k hk => h k (List.mem_cons_of_mem _ hk)]

end Subjects

/-- Exact names tell the reports apart in the same way as the document does just when no section
with an unknown key is written in another case. -/
theorem subjects_exact_eq_matched {keys : List Toml.Key} :
    subjects isExact keys = subjects isMatched keys ↔
      ∀ key ∈ keys, isMatched (top key) = true → isExact (top key) = true := by
  constructor
  · intro h key hkey hmatched
    have hmem : .inSection (top key) (Bytes.join "." key.tail) ∈ subjects isMatched keys :=
      inSection_mem_subjectsAfter hkey hmatched
    rw [← h] at hmem
    exact isSection_of_mem_subjectsAfter hmem
  · intro h
    refine subjectsAfter_congr fun key hkey => Bool.eq_iff_iff.mpr ?_
    exact ⟨isMatched_of_isExact, h key hkey⟩

/-- A document that can be decoded is refused for the reports on its unknown keys, if there are
any. -/
theorem load_eq_unknown {t : Tree} {path content : Bytes} {d : Toml.Document} {c : Settings}
    (hread : t.read path = .ok content) (hparse : Toml.parse? content = some d)
    (happly : applyDocument d defaults = some c) {rs : List UnknownKey} :
    load t path = .error (.unknown rs) ↔ reportKeys [] (unknownKeys d) = rs ∧ rs ≠ [] := by
  unfold load readSettings
  simp only [hread, hparse, happly]
  cases reportKeys [] (unknownKeys d) with
  | nil =>
    constructor
    · intro h
      -- What is left to find are problems with the values, and they are refused in other words.
      dsimp only [bind, Except.bind] at h
      split at h <;> cases h
    · rintro ⟨rfl, hne⟩
      exact absurd rfl hne
  | cons r rs' =>
    constructor
    · rintro ⟨⟩
      exact ⟨rfl, List.cons_ne_nil r rs'⟩
    · rintro ⟨rfl, -⟩
      rfl

/-- A document that can be decoded is refused for unknown keys exactly when it has some. The message
then has one line for each report, which names what the report is about. With sections told by their
exact names, there is a report on each unknown key below a section and one on each other name at the
top, in the order of the document. So it is with sections told as the document means them if, and
only if, none that has an unknown key is written in another case. -/
theorem load_reports_unknown {t : Tree} {path content : Bytes} {d : Toml.Document} {c : Settings}
    (hread : t.read path = .ok content) (hparse : Toml.parse? content = some d)
    (happly : applyDocument d defaults = some c) :
    ((∃ rs, load t path = .error (.unknown rs)) ↔ unknownKeys d ≠ []) ∧
      ∀ rs, load t path = .error (.unknown rs) →
        Bytes.split (byte '\n') (Error.message (.unknown rs)) = rs.map UnknownKey.message ∧
        (∀ r ∈ rs, ∃ suggestion, r.message = r.subject.words ++ suggestion) ∧
        rs.map UnknownKey.subject = subjects isExact (unknownKeys d) ∧
        (rs.map UnknownKey.subject = subjects isMatched (unknownKeys d) ↔
          ∀ key ∈ unknownKeys d, isMatched (top key) = true → isExact (top key) = true) := by
  have hload {rs : List UnknownKey} : load t path = .error (.unknown rs) ↔
      reportKeys [] (unknownKeys d) = rs ∧ rs ≠ [] := load_eq_unknown hread hparse happly
  constructor
  · constructor
    · rintro ⟨rs, h⟩ hnone
      obtain ⟨rfl, hne⟩ := hload.mp h
      exact hne (reportKeys_eq_nil.mpr hnone)
    · intro hsome
      exact ⟨_, hload.mpr ⟨rfl, reportKeys_eq_nil.not.mpr hsome⟩⟩
  · intro rs h
    obtain ⟨rfl, hne⟩ := hload.mp h
    refine ⟨split_message_unknown hne, fun r _ => r.message_eq, map_subject_reports d, ?_⟩
    rw [map_subject_reports d, subjects_exact_eq_matched]

/-- A document with two unknown keys below a section in another case. -/
def otherCase : Bytes := "[Export]\nfoo = 1\nbar = 2\n"

/-- The document means the section, and yet its name is reported and the keys are not. -/
theorem otherCase_told_once :
    ∃ rs, load (configured otherCase) "c.toml" = .error (.unknown rs) ∧
      Error.message (.unknown rs) = utf8 "unknown config key \"Export\", did you mean [export]?" ∧
      rs.map UnknownKey.subject ≠
        [.inSection (utf8 "Export") (utf8 "foo"), .inSection (utf8 "Export") (utf8 "bar")] ∧
      ∃ d, Toml.parse? otherCase = some d ∧
        subjects isMatched (unknownKeys d) =
          [.inSection (utf8 "Export") (utf8 "foo"), .inSection (utf8 "Export") (utf8 "bar")] := by
  have hread : (configured otherCase).read "c.toml" = .ok otherCase := by decide +kernel
  have hunknown : (Toml.parse? otherCase).map unknownKeys =
      some [[utf8 "Export", utf8 "foo"], [utf8 "Export", utf8 "bar"]] := by
    decide +kernel
  have happlies : ((Toml.parse? otherCase).bind fun d => applyDocument d defaults).isSome := by
    decide +kernel
  obtain ⟨d, hparse, hkeys⟩ := Option.map_eq_some_iff.mp hunknown
  rw [hparse, Option.bind_some] at happlies
  obtain ⟨c, happly⟩ := Option.isSome_iff_exists.mp happlies
  have hmatched : subjects isMatched (unknownKeys d) =
      [.inSection (utf8 "Export") (utf8 "foo"), .inSection (utf8 "Export") (utf8 "bar")] := by
    rw [hkeys]
    decide +kernel
  obtain ⟨hreports, hall⟩ := load_reports_unknown hread hparse happly
  obtain ⟨rs, hrs⟩ := hreports.mpr (by rw [hkeys]; exact List.cons_ne_nil _ _)
  obtain ⟨-, -, -, hiff⟩ := hall rs hrs
  refine ⟨rs, hrs, ?_, ?_, d, hparse, hmatched⟩
  · obtain ⟨rfl, -⟩ := (load_eq_unknown hread hparse happly).mp hrs
    rw [hkeys]
    decide +kernel
  · rw [← hmatched, Ne, hiff, hkeys]
    decide +kernel

end Config

end DocPull
