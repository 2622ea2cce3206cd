import DocPull.Config.Unknown
import DocPull.Proofs.EditDistance
import Mathlib.Data.List.Sort
import Mathlib.Tactic

/-!
# Suggested names

The candidates are passed once, and one takes the place of the best so far only if it is strictly
nearer. So the first of the nearest candidates is suggested, unless all are too far. Where the
candidates are in alphabetical order, the first of the nearest is the least, and which one this is
depends only on what the candidates are.
-/
namespace DocPull

namespace EditDistance

variable {name c : Bytes} {candidates : List Bytes} {d : Nat}

/-- Two texts are exactly their distance apart. -/
theorem apart_iff_eq_distance {s t : Bytes} : Apart s t d ↔ d = distance s t := by
  have h : Apart s t (distance s t) := (isRow_foldl s t).getLast
  exact ⟨fun hd => hd.unique h, fun hd => hd ▸ h⟩

/-- A candidate so many edits from a name that is the first of the nearest ones. -/
structure FirstNearest (name : Bytes) (candidates : List Bytes) (c : Bytes) (d : Nat) : Prop where
  apart : Apart name c d
  split : ∃ before after, candidates = before ++ c :: after ∧
    (∀ k ∈ before, ∀ e, Apart name k e → d < e) ∧ ∀ k ∈ after, ∀ e, Apart name k e → d ≤ e

theorem firstNearest_iff :
    FirstNearest name candidates c d ↔ d = distance name c ∧
      ∃ before after, candidates = before ++ c :: after ∧
        (∀ k ∈ before, d < distance name k) ∧ ∀ k ∈ after, d ≤ distance name k := by
  constructor
  · rintro ⟨hd, hsplit⟩
    simp only [apart_iff_eq_distance, forall_eq] at hd hsplit
    exact ⟨hd, hsplit⟩
  · rintro ⟨hd, hsplit⟩
    refine ⟨apart_iff_eq_distance.mpr hd, ?_⟩
    simpa only [apart_iff_eq_distance, forall_eq] using hsplit

namespace FirstNearest

variable {c' : Bytes} {d' : Nat}

theorem mem (h : FirstNearest name candidates c d) : c ∈ candidates := by
  obtain ⟨before, after, rfl, -⟩ := h.split
  simp

theorem le (h : FirstNearest name candidates c d) {k : Bytes} (hk : k ∈ candidates) :
    d ≤ distance name k := by
  obtain ⟨hd, before, after, rfl, hbefore, hafter⟩ := firstNearest_iff.mp h
  rw [List.mem_append, List.mem_cons] at hk
  obtain hk | rfl | hk := hk
  · exact (hbefore k hk).le
  · exact hd.le
  · exact hafter k hk

theorem unique (h : FirstNearest name candidates c d) (h' : FirstNearest name candidates c' d') :
    c = c' := by
  obtain ⟨hd, before, after, hsplit, hbefore, -⟩ := firstNearest_iff.mp h
  obtain ⟨hd', before', after', hsplit', hbefore', -⟩ := firstNearest_iff.mp h'
  have hle := h.le h'.mem
  have hle' := h'.le h.mem
  rw [hsplit, List.append_eq_append_iff] at hsplit'
  -- Of two that stand apart, the one in front is strictly nearer.
  obtain ⟨between, rfl, hrest⟩ | ⟨between, rfl, hrest⟩ := hsplit'
  · obtain _ | ⟨k, between⟩ := between
    · exact (List.cons.inj hrest).1
    · obtain rfl := (List.cons.inj hrest).1
      have hlt := hbefore' c (by simp)
      omega
  · obtain _ | ⟨k, between⟩ := between
    · exact (List.cons.inj hrest).1.symm
    · obtain rfl := (List.cons.inj hrest).1
      have hlt := hbefore c' (by simp)
      omega

/-- A candidate in front that is not strictly nearer makes no difference. -/
theorem cons {k : Bytes} (h : FirstNearest name candidates c d) (hk : d < distance name k) :
    FirstNearest name (k :: candidates) c d := by
  obtain ⟨hd, before, after, rfl, hbefore, hafter⟩ := firstNearest_iff.mp h
  exact firstNearest_iff.mpr
    ⟨hd, k :: before, after, rfl, List.forall_mem_cons.mpr ⟨hk, hbefore⟩, hafter⟩

end FirstNearest

/-- A pass over candidates ends with the first of the nearest ones when it is strictly nearer than
the best before, and else with this. -/
theorem foldl_nearer (name : Bytes) (candidates : List Bytes) (best : Option Bytes) (least : Nat) :
    (∃ c d, candidates.foldl (closest?.nearer name) (best, least) = (some c, d) ∧ d < least ∧
        FirstNearest name candidates c d) ∨
      candidates.foldl (closest?.nearer name) (best, least) = (best, least) ∧
        ∀ k ∈ candidates, least ≤ distance name k := by
  induction candidates generalizing best least with
  | nil => exact .inr ⟨rfl, nofun⟩
  | cons k candidates ih =>
    rw [List.foldl_cons, closest?.nearer]
    split_ifs with hk
    · obtain ⟨c, d, hfold, hlt, hfirst⟩ | ⟨hfold, hall⟩ := ih (some k) (distance name k)
      · exact .inl ⟨c, d, hfold, hlt.trans hk, hfirst.cons hlt⟩
      · exact .inl ⟨k, distance name k, hfold, hk,
          firstNearest_iff.mpr ⟨rfl, [], candidates, rfl, nofun, hall⟩⟩
    · obtain ⟨c, d, hfold, hlt, hfirst⟩ | ⟨hfold, hall⟩ := ih best least
      · exact .inl ⟨c, d, hfold, hlt, hfirst.cons (by omega)⟩
      · exact .inr ⟨hfold, List.forall_mem_cons.mpr ⟨by omega, hall⟩⟩

theorem closest?_cases (name : Bytes) (candidates : List Bytes) :
    (∃ c d, closest? name candidates = some c ∧ d ≤ maxDistance ∧
        FirstNearest name candidates c d) ∨
      closest? name candidates = none ∧ ∀ k ∈ candidates, maxDistance < distance name k := by
  unfold closest?
  obtain ⟨c, d, hfold, hlt, hfirst⟩ | ⟨hfold, hall⟩ :=
    foldl_nearer name candidates none (maxDistance + 1)
  · exact .inl ⟨c, d, by rw [hfold], Nat.le_of_lt_succ hlt, hfirst⟩
  · exact .inr ⟨by rw [hfold], hall⟩

/-- The first of the nearest candidates is found, if these are near enough. -/
theorem closest?_eq_some_iff :
    closest? name candidates = some c ↔
      ∃ d ≤ maxDistance, FirstNearest name candidates c d := by
  obtain ⟨c', d', hc, hle, hfirst⟩ | ⟨hnone, hfar⟩ := closest?_cases name candidates
  · rw [hc, Option.some.injEq]
    constructor
    · rintro rfl
      exact ⟨d', hle, hfirst⟩
    · rintro ⟨d, -, h⟩
      exact hfirst.unique h
  · rw [hnone]
    refine iff_of_false nofun ?_
    rintro ⟨d, hd, h⟩
    have hlt := hfar c h.mem
    rw [← apart_iff_eq_distance.mp h.apart] at hlt
    omega

theorem mem_of_closest? (h : closest? name candidates = some c) : c ∈ candidates := by
  obtain ⟨d, -, hfirst⟩ := closest?_eq_some_iff.mp h
  exact hfirst.mem

/-- No candidate is found when all of them are too far. -/
theorem closest?_eq_none_iff :
    closest? name candidates = none ↔ ∀ k ∈ candidates, ∀ d, Apart name k d → maxDistance < d := by
  simp only [apart_iff_eq_distance, forall_eq]
  obtain ⟨c, d, hc, hle, hfirst⟩ | ⟨hnone, hfar⟩ := closest?_cases name candidates
  · rw [hc]
    refine iff_of_false nofun fun hfar => ?_
    have hlt := hfar c hfirst.mem
    rw [← apart_iff_eq_distance.mp hfirst.apart] at hlt
    omega
  · exact iff_of_true hnone hfar

/-- In alphabetical order the first of the nearest candidates is the least of them. -/
theorem firstNearest_sorted_iff (hsorted : candidates.Pairwise (· ≤ ·)) :
    FirstNearest name candidates c d ↔ c ∈ candidates ∧ Apart name c d ∧
      ∀ k ∈ candidates, ∀ e, Apart name k e → d < e ∨ d = e ∧ c ≤ k := by
  constructor
  · intro h
    refine ⟨h.mem, h.apart, ?_⟩
    obtain ⟨before, after, rfl, hbefore, hafter⟩ := h.split
    intro k hk e he
    rw [List.mem_append, List.mem_cons] at hk
    obtain hk | rfl | hk := hk
    · exact .inl (hbefore k hk e he)
    · exact .inr ⟨h.apart.unique he, List.le_refl _⟩
    · have hck := (List.pairwise_cons.mp (List.pairwise_append.mp hsorted).2.1).1 k hk
      exact (hafter k hk e he).lt_or_eq.imp_right fun heq => ⟨heq, hck⟩
  · rintro ⟨hmem, hd, hleast⟩
    obtain ⟨before, after, rfl, hnot⟩ := List.eq_append_cons_of_mem hmem
    refine ⟨hd, before, after, rfl, fun k hk e he => ?_, fun k hk e he => ?_⟩
    · have hkc := (List.pairwise_append.mp hsorted).2.2 k hk c (by simp)
      obtain hlt | ⟨-, hck⟩ := hleast k (by simp [hk]) e he
      · exact hlt
      · exact absurd (List.le_antisymm hck hkc ▸ hk) hnot
    · obtain hlt | ⟨rfl, -⟩ := hleast k (by simp [hk]) e he
      · exact hlt.le
      · exact le_rfl

end EditDistance

namespace Config

open EditDistance

theorem insertName_eq (n : Bytes) (names : List Bytes) :
    insertName n names = names.orderedInsert (· ≤ ·) n := by
  induction names with
  | nil => rfl
  | cons m names ih => rw [insertName, List.orderedInsert_cons, ih]

/-- Names put in their places one by one are in alphabetical order. -/
theorem foldr_insertName (names : List Bytes) :
    names.foldr insertName [] = names.insertionSort (· ≤ ·) := by
  induction names with
  | nil => rfl
  | cons n names ih => rw [List.foldr_cons, ih, insertName_eq, List.insertionSort_cons]

/-- Only what the names are decides their alphabetical order. -/
theorem foldr_insertName_of_perm {names names' : List Bytes} (h : names.Perm names') :
    names.foldr insertName [] = names'.foldr insertName [] := by
  rw [foldr_insertName, foldr_insertName]
  refine List.Perm.eq_of_pairwise (fun _ _ _ _ => List.le_antisymm)
    (List.pairwise_insertionSort _ _) (List.pairwise_insertionSort _ _) ?_
  exact (List.perm_insertionSort _ _).trans (h.trans (List.perm_insertionSort _ _).symm)

/-- The names of the settings of a section, in the order of its table. -/
def settingNames (s : Section) : List Bytes := s.settings.map fun f => utf8 f.name

theorem sortedNames_eq {s : Section} {table : List Bytes} (h : table.Perm (settingNames s)) :
    sortedNames s = table.foldr insertName [] := by
  rw [foldr_insertName_of_perm h, settingNames, List.foldr_map, sortedNames]

/-- The nearest of the names of a table, whatever its order: the alphabetically first if there are
several, and none if they are too far. -/
theorem closest?_table {name c : Bytes} (table : List Bytes) :
    closest? name (table.foldr insertName []) = some c ↔
      ∃ d ≤ maxDistance, c ∈ table ∧ Apart name c d ∧
        ∀ k ∈ table, ∀ e, Apart name k e → d < e ∨ d = e ∧ c ≤ k := by
  have hmem : ∀ k, k ∈ table.insertionSort (· ≤ ·) ↔ k ∈ table := fun k =>
    (List.perm_insertionSort _ table).mem_iff
  rw [foldr_insertName, closest?_eq_some_iff]
  simp only [firstNearest_sorted_iff (List.pairwise_insertionSort _ table), hmem]

theorem exactSection?_name (s : Section) : exactSection? (utf8 s.name) = some s := by
  cases s <;> decide

/-- Among any candidates, the first of the nearest to a name is suggested when it is at most three
edits away, and nothing when all are at least four away. So what is suggested for an unknown key
below a section is a setting of this section, nearest to the name that stands there, the
alphabetically first of several such, in whatever order the section's table lists its settings. -/
theorem suggestion_nearest :
    (∀ name candidates,
      (∀ c, closest? name candidates = some c ↔ ∃ d ≤ 3, FirstNearest name candidates c d) ∧
      (closest? name candidates = none ↔ ∀ k ∈ candidates, ∀ d, Apart name k d → 4 ≤ d)) ∧
    ∀ (s : Section) (table : List Bytes), table.Perm (settingNames s) →
      ∀ (name : Bytes) (rest : List Bytes), ∃ nearest,
        reportKey (utf8 s.name :: name :: rest) =
          .inSection (utf8 s.name) (Bytes.join "." (name :: rest)) nearest ∧
        nearest = closest? name (table.foldr insertName []) ∧
        (∀ c, nearest = some c ↔ ∃ d ≤ 3, c ∈ table ∧ Apart name c d ∧
          ∀ k ∈ table, ∀ e, Apart name k e → d < e ∨ d = e ∧ c ≤ k) ∧
        (nearest = none ↔ ∀ k ∈ table, ∀ d, Apart name k d → 4 ≤ d) := by
  refine ⟨fun name candidates => ⟨fun c => closest?_eq_some_iff, closest?_eq_none_iff⟩, ?_⟩
  intro s table htable name rest
  refine ⟨closest? name (sortedNames s), ?_, by rw [sortedNames_eq htable], fun c => ?_, ?_⟩
  · simp only [reportKey, exactSection?_name]
  · rw [sortedNames_eq htable]
    exact closest?_table table
  · rw [sortedNames_eq htable, closest?_eq_none_iff, foldr_insertName]
    simp only [(List.perm_insertionSort _ table).mem_iff]
    exact Iff.rfl

example : reportKey ["export", "chunk_sise"] =
    .inSection "export" "chunk_sise" (some "chunk_size") := by decide +kernel

end Config

end DocPull
