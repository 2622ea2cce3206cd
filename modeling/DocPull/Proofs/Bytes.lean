import DocPull.Bytes
import Mathlib.Data.List.Infix
import Mathlib.Tactic

/-!
# Bytes and the ends of texts

A property of bytes is checked for all of them at once. A text ends so when what is looked for is a
suffix of it; where two texts meet, a suffix that does not reach beyond the second is one of that. A
run of one byte at the end can be told apart from what stands before it.
-/
namespace DocPull.Bytes

/-- What holds of the 256 bytes holds of every byte. -/
theorem forall_byte {p : UInt8 → Prop} (h : ∀ n < 256, p (UInt8.ofNat n)) (b : UInt8) : p b := by
  have hb := h b.toNat b.toNat_lt
  rwa [UInt8.ofNat_toNat] at hb

/-- What is checked byte by byte holds of all bytes of a text. -/
theorem forall_mem {p : UInt8 → Prop} [DecidablePred p] {s : Bytes}
    (h : (s.all fun b => p b) = true) : ∀ b ∈ s, p b :=
  fun b hb => of_decide_eq_true (List.all_eq_true.mp h b hb)

theorem isSome_after?_iff {start s : Bytes} : (after? start s).isSome = true ↔ start <+: s := by
  induction start generalizing s with
  | nil => exact iff_of_true rfl List.nil_prefix
  | cons p start ih =>
    cases s with
    | nil => simp [after?]
    | cons b s =>
      rw [after?, List.cons_prefix_cons, ← ih]
      split_ifs with h <;> simp [h]

theorem endsWith_iff {s tail : Bytes} : endsWith s tail = true ↔ tail <:+ s := by
  rw [endsWith, isSome_after?_iff, List.reverse_prefix]

/-- A text does not reach beyond a byte that stands at most at its end. -/
theorem suffix_append_iff {s t tail : Bytes} (ht : t ≠ [])
    (hs : ∀ b ∈ s.getLast?, b ∉ tail.dropLast) : tail <:+ s ++ t ↔ tail <:+ t := by
  refine ⟨fun h => ?_, fun h => h.trans (List.suffix_append s t)⟩
  obtain hle | ⟨r, rfl⟩ := List.suffix_or_suffix_of_suffix h (List.suffix_append s t)
  · exact hle
  obtain rfl | ⟨r, b, rfl⟩ := List.eq_nil_or_concat r
  · exact List.suffix_rfl
  · obtain ⟨p, hp⟩ := h
    have hcut : p ++ r.concat b = s := by
      rw [← List.append_assoc] at hp
      exact List.append_cancel_right hp
    have hlast : b ∈ s.getLast? := by simp [← hcut]
    refine absurd ?_ (hs b hlast)
    rw [List.dropLast_append_of_ne_nil ht]
    simp

/-- What a run of one byte at the end leaves, and the run. -/
theorem trimEnd_append (b : UInt8) (s : Bytes) :
    ∃ k, s = trimEnd b s ++ List.replicate k b := by
  have hrun : s.reverse.takeWhile (· == b) =
      List.replicate (s.reverse.takeWhile (· == b)).length b := by
    refine List.eq_replicate_of_mem fun c hc => ?_
    simpa using List.all_eq_true.mp List.all_takeWhile c hc
  refine ⟨(s.reverse.takeWhile (· == b)).length, ?_⟩
  rw [trimEnd, ← List.reverse_replicate, ← hrun, ← List.reverse_append,
    List.takeWhile_append_dropWhile, List.reverse_reverse]

/-- No such byte is left at the end. -/
theorem not_mem_getLast?_trimEnd (b : UInt8) (s : Bytes) : b ∉ (trimEnd b s).getLast? := by
  intro h
  have hfirst := List.head?_dropWhile_not (· == b) s.reverse
  rw [trimEnd, List.getLast?_reverse, Option.mem_def] at h
  rw [h] at hfirst
  simp at hfirst

end DocPull.Bytes
