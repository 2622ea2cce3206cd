import DocPull.EditDistance
import Mathlib.Tactic

/-!
# The table holds the fewest edits

An edit inserts a byte, deletes one or puts one in the place of another, anywhere in a text. Edits
in a row can be told in order of their places, as an alignment of the two texts from the beginning;
this takes no more of them. The last column of an alignment is an inserted byte, a deleted byte or a
pair, so the fewest edits between two texts come from those between texts that are one byte shorter.
This is the equation by which each row of the table is made from the row above it.
-/
namespace DocPull.EditDistance

/-- One edit of a text. -/
inductive Edit : Bytes → Bytes → Prop
  | insert (before : Bytes) (b : UInt8) (after : Bytes) :
      Edit (before ++ after) (before ++ b :: after)
  | delete (before : Bytes) (b : UInt8) (after : Bytes) :
      Edit (before ++ b :: after) (before ++ after)
  | substitute (before : Bytes) (a b : UInt8) (after : Bytes) :
      Edit (before ++ a :: after) (before ++ b :: after)

/-- So many edits, one after the other. -/
inductive Edits : Nat → Bytes → Bytes → Prop
  | none (s : Bytes) : Edits 0 s s
  | more {n : Nat} {s t u : Bytes} (h : Edits n s t) (he : Edit t u) : Edits (n + 1) s u

/-- The price of a pair of bytes. -/
def pairCost (a b : UInt8) : Nat := if a = b then 0 else 1

/-- Two texts aligned from the beginning, and how many edits the alignment tells. -/
inductive Aligned : Nat → Bytes → Bytes → Prop
  | nil : Aligned 0 [] []
  | insert {n : Nat} {s t : Bytes} (h : Aligned n s t) (b : UInt8) : Aligned (n + 1) s (t ++ [b])
  | delete {n : Nat} {s t : Bytes} (h : Aligned n s t) (a : UInt8) : Aligned (n + 1) (s ++ [a]) t
  | pair {n : Nat} {s t : Bytes} (h : Aligned n s t) (a b : UInt8) :
      Aligned (n + pairCost a b) (s ++ [a]) (t ++ [b])

variable {n : Nat} {s t u : Bytes} {a b : UInt8}

@[simp] theorem pairCost_self (a : UInt8) : pairCost a a = 0 := if_pos rfl

theorem pairCost_le_one (a b : UInt8) : pairCost a b ≤ 1 := by
  unfold pairCost
  split_ifs <;> decide

/-- An edit of the empty text inserts a byte. -/
theorem Edit.of_nil (h : Edit [] u) : ∃ b, u = [b] := by
  generalize hs : ([] : Bytes) = s at h
  cases h with
  | insert before b after =>
    obtain ⟨rfl, rfl⟩ := List.append_eq_nil_iff.mp hs.symm
    exact ⟨b, rfl⟩
  | delete before b after => simp at hs
  | substitute before a b after => simp at hs

/-- An edit of a text with a last byte leaves this byte alone, or puts one behind it, deletes it or
puts one in its place. -/
theorem Edit.of_concat (h : Edit (t ++ [b]) u) :
    (∃ u', Edit t u' ∧ u = u' ++ [b]) ∨ (∃ c, u = t ++ [b] ++ [c]) ∨ u = t ∨
      ∃ c, u = t ++ [c] := by
  generalize hs : t ++ [b] = s at h
  cases h with
  | insert before c after =>
    rcases List.eq_nil_or_concat after with rfl | ⟨after, d, rfl⟩
    · exact .inr (.inl ⟨c, by simp⟩)
    · rw [List.concat_eq_append, ← List.append_assoc] at hs
      obtain ⟨rfl, hb⟩ := List.append_inj' hs rfl
      cases hb
      exact .inl ⟨_, .insert before c after, by simp⟩
  | delete before c after =>
    rcases List.eq_nil_or_concat after with rfl | ⟨after, d, rfl⟩
    · obtain ⟨rfl, -⟩ := List.append_inj' hs rfl
      exact .inr (.inr (.inl (by simp)))
    · rw [List.concat_eq_append, ← List.cons_append, ← List.append_assoc] at hs
      obtain ⟨rfl, hb⟩ := List.append_inj' hs rfl
      cases hb
      exact .inl ⟨_, .delete before c after, by simp⟩
  | substitute before c d after =>
    rcases List.eq_nil_or_concat after with rfl | ⟨after, e, rfl⟩
    · obtain ⟨rfl, -⟩ := List.append_inj' hs rfl
      exact .inr (.inr (.inr ⟨d, rfl⟩))
    · rw [List.concat_eq_append, ← List.cons_append, ← List.append_assoc] at hs
      obtain ⟨rfl, hb⟩ := List.append_inj' hs rfl
      cases hb
      exact .inl ⟨_, .substitute before c d after, by simp⟩

/-- One more edit costs an alignment at most one more. -/
theorem Aligned.edit (h : Aligned n s t) (he : Edit t u) : ∃ m ≤ n + 1, Aligned m s u := by
  induction h generalizing u with
  | nil =>
    obtain ⟨b, rfl⟩ := he.of_nil
    exact ⟨1, le_rfl, .insert .nil b⟩
  | insert h b ih =>
    obtain ⟨u', he', rfl⟩ | ⟨c, rfl⟩ | rfl | ⟨c, rfl⟩ := he.of_concat
    · obtain ⟨m, hm, halign⟩ := ih he'
      exact ⟨m + 1, by omega, halign.insert b⟩
    · exact ⟨_, le_rfl, (h.insert b).insert c⟩
    · exact ⟨_, by omega, h⟩
    · exact ⟨_, by omega, h.insert c⟩
  | delete h a ih =>
    obtain ⟨m, hm, halign⟩ := ih he
    exact ⟨m + 1, by omega, halign.delete a⟩
  | @pair n s t h a b ih =>
    obtain ⟨u', he', rfl⟩ | ⟨c, rfl⟩ | rfl | ⟨c, rfl⟩ := he.of_concat
    · obtain ⟨m, hm, halign⟩ := ih he'
      exact ⟨m + pairCost a b, by omega, halign.pair a b⟩
    · exact ⟨_, le_rfl, (h.pair a b).insert c⟩
    · exact ⟨_, by omega, h.delete a⟩
    · have hcost := pairCost_le_one a c
      exact ⟨_, by omega, h.pair a c⟩

theorem Aligned.refl (s : Bytes) : Aligned 0 s s := by
  induction s using List.reverseRecOn with
  | nil => exact .nil
  | append_singleton s a ih => simpa using ih.pair a a

/-- Edits in any order make an alignment of no higher cost. -/
theorem Edits.aligned (h : Edits n s t) : ∃ m ≤ n, Aligned m s t := by
  induction h with
  | none s => exact ⟨0, le_rfl, .refl s⟩
  | more h he ih =>
    obtain ⟨m, hm, halign⟩ := ih
    obtain ⟨m', hm', halign'⟩ := halign.edit he
    exact ⟨m', by omega, halign'⟩

theorem Edit.append (h : Edit s t) (r : Bytes) : Edit (s ++ r) (t ++ r) := by
  cases h with
  | insert before b after => simpa using Edit.insert before b (after ++ r)
  | delete before b after => simpa using Edit.delete before b (after ++ r)
  | substitute before a b after => simpa using Edit.substitute before a b (after ++ r)

theorem Edits.append (h : Edits n s t) (r : Bytes) : Edits n (s ++ r) (t ++ r) := by
  induction h with
  | none s => exact .none _
  | more h he ih => exact ih.more (he.append r)

/-- An alignment is carried out from left to right. -/
theorem Aligned.edits (h : Aligned n s t) : Edits n s t := by
  induction h with
  | nil => exact .none []
  | @insert n s t h b ih => exact ih.more (by simpa using Edit.insert t b [])
  | @delete n s t h a ih => exact (ih.append [a]).more (by simpa using Edit.delete t a [])
  | @pair n s t h a b ih =>
    unfold pairCost
    split_ifs with hab
    · rw [← hab]
      exact ih.append [a]
    · exact (ih.append [a]).more (.substitute t a b [])

/-- The last column of an alignment. -/
theorem Aligned.concat (h : Aligned n (s ++ [a]) (t ++ [b])) :
    (∃ m, n = m + 1 ∧ Aligned m (s ++ [a]) t) ∨ (∃ m, n = m + 1 ∧ Aligned m s (t ++ [b])) ∨
      ∃ m, n = m + pairCost a b ∧ Aligned m s t := by
  generalize hs : s ++ [a] = s', ht : t ++ [b] = t' at h
  cases h with
  | nil => simp at hs
  | @insert m _ t₁ h c =>
    obtain ⟨rfl, -⟩ := List.append_inj' ht rfl
    exact .inl ⟨m, rfl, h⟩
  | @delete m s₁ _ h c =>
    obtain ⟨rfl, -⟩ := List.append_inj' hs rfl
    exact .inr (.inl ⟨m, rfl, h⟩)
  | @pair m s₁ t₁ h c d =>
    obtain ⟨rfl, hc⟩ := List.append_inj' hs rfl
    obtain ⟨rfl, hd⟩ := List.append_inj' ht rfl
    cases hc
    cases hd
    exact .inr (.inr ⟨m, rfl, h⟩)

/-- Two texts that are so many edits apart, and no fewer. -/
def Apart (s t : Bytes) (d : Nat) : Prop := IsLeast {n | Edits n s t} d

/-- Only the cost of alignments counts. -/
theorem apart_iff {d : Nat} :
    Apart s t d ↔ Aligned d s t ∧ ∀ m, Aligned m s t → d ≤ m := by
  constructor
  · rintro ⟨hd, hleast⟩
    have hle : ∀ m, Aligned m s t → d ≤ m := fun m hm => hleast hm.edits
    obtain ⟨m, hm, halign⟩ := Edits.aligned hd
    obtain rfl : m = d := le_antisymm hm (hle m halign)
    exact ⟨halign, hle⟩
  · rintro ⟨hd, hle⟩
    refine ⟨hd.edits, fun n hn => ?_⟩
    obtain ⟨m, hm, halign⟩ := Edits.aligned hn
    exact (hle m halign).trans hm

theorem Aligned.length_le (h : Aligned n s t) :
    s.length ≤ t.length + n ∧ t.length ≤ s.length + n := by
  induction h with
  | nil => simp
  | insert h b ih => simp only [List.length_append, List.length_singleton]; omega
  | delete h a ih => simp only [List.length_append, List.length_singleton]; omega
  | pair h a b ih => simp only [List.length_append, List.length_singleton]; omega

theorem Aligned.insert_all (s : Bytes) : Aligned s.length [] s := by
  induction s using List.reverseRecOn with
  | nil => exact .nil
  | append_singleton s a ih => simpa using ih.insert a

theorem Aligned.delete_all (s : Bytes) : Aligned s.length s [] := by
  induction s using List.reverseRecOn with
  | nil => exact .nil
  | append_singleton s a ih => simpa using ih.delete a

theorem apart_nil_left (s : Bytes) : Apart [] s s.length :=
  apart_iff.mpr ⟨.insert_all s, fun m hm => by simpa using hm.length_le.2⟩

theorem apart_nil_right (s : Bytes) : Apart s [] s.length :=
  apart_iff.mpr ⟨.delete_all s, fun m hm => by simpa using hm.length_le.1⟩

/-- The distances between beginnings that are one byte shorter give the distance between longer
ones. -/
theorem Apart.concat {left up diagonal : Nat} (hleft : Apart (s ++ [a]) t left)
    (hup : Apart s (t ++ [b]) up) (hdiagonal : Apart s t diagonal) :
    Apart (s ++ [a]) (t ++ [b]) (min (min (left + 1) (up + 1)) (diagonal + pairCost a b)) := by
  obtain ⟨hleft, hleast_left⟩ := apart_iff.mp hleft
  obtain ⟨hup, hleast_up⟩ := apart_iff.mp hup
  obtain ⟨hdiagonal, hleast_diagonal⟩ := apart_iff.mp hdiagonal
  refine apart_iff.mpr ⟨?_, fun m hm => ?_⟩
  · rcases min_choice (min (left + 1) (up + 1)) (diagonal + pairCost a b) with h | h
    · rw [h]
      rcases min_choice (left + 1) (up + 1) with h | h
      · rw [h]
        exact hleft.insert b
      · rw [h]
        exact hup.delete a
    · rw [h]
      exact hdiagonal.pair a b
  · obtain ⟨k, rfl, halign⟩ | ⟨k, rfl, halign⟩ | ⟨k, rfl, halign⟩ := hm.concat
    · have hk := hleast_left k halign
      omega
    · have hk := hleast_up k halign
      omega
    · have hk := hleast_diagonal k halign
      omega

/-- A part of a row of the table: the distances from a text to a beginning of the other one, and on
to all longer beginnings. -/
inductive IsRow (s : Bytes) : (before rest : Bytes) → List Nat → Prop
  | last {before : Bytes} {d : Nat} (h : Apart s before d) : IsRow s before [] [d]
  | more {before rest : Bytes} {b : UInt8} {d : Nat} {row : List Nat} (h : Apart s before d)
      (hrow : IsRow s (before ++ [b]) rest row) : IsRow s before (b :: rest) (d :: row)

namespace IsRow

variable {before rest : Bytes} {row : List Nat}

theorem head (h : IsRow s before rest row) : Apart s before (row.headD 0) := by
  cases h with
  | last h => exact h
  | more h _ => exact h

theorem getLast (h : IsRow s before rest row) : Apart s (before ++ rest) (row.getLastD 0) := by
  induction h with
  | last h => simpa using h
  | @more before rest b d row h hrow ih =>
    rw [List.append_cons]
    cases row with
    | nil => cases hrow
    | cons e row => exact ih

/-- A row is filled in from left to right, each entry from the ones beside and above it. -/
theorem extend {above : List Nat} {left : Nat} (h : IsRow s before rest above)
    (hleft : Apart (s ++ [a]) before left) :
    IsRow (s ++ [a]) before rest (left :: EditDistance.extend a left rest above) := by
  induction h generalizing left with
  | last h => exact .last hleft
  | @more before rest b diagonal row h hrow ih =>
    cases row with
    | nil => cases hrow
    | cons up row => exact .more hleft (ih (hleft.concat hrow.head h))

theorem first (before rest : Bytes) :
    IsRow [] before rest (List.range' before.length (rest.length + 1)) := by
  induction rest generalizing before with
  | nil => exact .last (apart_nil_left before)
  | cons b rest ih =>
    rw [List.length_cons, List.range'_succ]
    exact .more (apart_nil_left before) (by simpa using ih (before ++ [b]))

end IsRow

/-- After each byte of the first text the row at hand is the one for what was read of it. -/
theorem isRow_foldl (s t : Bytes) : IsRow s [] t (s.foldl (nextRow t) (firstRow t)) := by
  induction s using List.reverseRecOn with
  | nil =>
    rw [List.foldl_nil, firstRow, List.range_eq_range']
    exact .first [] t
  | append_singleton s a ih =>
    rw [List.foldl_concat, nextRow]
    have hd : (s.foldl (nextRow t) (firstRow t)).headD 0 = s.length :=
      ih.head.unique (apart_nil_right s)
    exact ih.extend (hd ▸ by simpa using apart_nil_right (s ++ [a]))

/-- The distance of two texts is the least number of edits that turn the first into the second. -/
theorem distance_isLeast (s t : Bytes) : IsLeast {n | Edits n s t} (distance s t) :=
  (isRow_foldl s t).getLast

example : distance "kitten" "sitting" = 3 := by decide

end DocPull.EditDistance
