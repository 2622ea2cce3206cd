import DocPull.Proofs.Text.Blank
import DocPull.Text.Fold

/-!
# Small letters without their case

Under simple case folding a small ASCII letter is the same as its capital, and two of them also as
one character beyond ASCII. Comparison without case finds exactly these.
-/
namespace DocPull.Fold

open TextUnit

/-- The characters that simple case folding takes for a small ASCII letter or for a sign. -/
def variants (c : Char) : List Char :=
  if 'a' ≤ c ∧ c ≤ 'z' then
    c :: Char.ofNat (c.toNat - 32) ::
      (if c = 's' then ['\u017f'] else if c = 'k' then ['\u212a'] else [])
  else [c]

/-- Whether a text is another one in ASCII up to case, character by character. -/
def IsVariant (s t : Bytes) : Prop :=
  ∃ ds cs : List Char, s = ds.flatMap String.utf8EncodeChar ∧
    t = cs.flatMap String.utf8EncodeChar ∧ List.Forall₂ (fun d c => d ∈ variants c) ds cs

theorem mem_variants_of_capital {d : Char} (h : 'A' ≤ d ∧ d ≤ 'Z') :
    d ∈ variants (Char.ofNat (d.toNat + 32)) := by
  have hall : ∀ n < 128, 'A' ≤ Char.ofNat n ∧ Char.ofNat n ≤ 'Z' →
      Char.ofNat n ∈ variants (Char.ofNat ((Char.ofNat n).toNat + 32)) := by decide +kernel
  have hlt : d.toNat < 128 := lt_of_le_of_lt (show d.toNat ≤ 'Z'.toNat from h.2) (by decide)
  have hd := hall d.toNat hlt
  rw [Char.ofNat_toNat] at hd
  exact hd h

/-- What folds to a small letter or a sign is one of its variants. -/
theorem mem_variants_of_fold {u : TextUnit} {c : Char} (h : fold u = .char c) :
    ∃ d ∈ variants c, u = .char d := by
  cases u with
  | stray b => cases h
  | char d =>
    refine ⟨d, ?_, rfl⟩
    simp only [fold] at h
    split_ifs at h with hcapital hlong hkelvin
    · cases h
      exact mem_variants_of_capital hcapital
    · cases h
      subst hlong
      decide
    · cases h
      subst hkelvin
      decide
    · cases h
      unfold variants
      split_ifs <;> simp

theorem exists_variants {us : List TextUnit} {cs : List Char} (h : us.map fold = cs.map .char) :
    ∃ ds : List Char, us = ds.map .char ∧ List.Forall₂ (fun d c => d ∈ variants c) ds cs := by
  induction us generalizing cs with
  | nil =>
    rw [List.map_nil, eq_comm, List.map_eq_nil_iff] at h
    subst h
    exact ⟨[], rfl, .nil⟩
  | cons u us ih =>
    cases cs with
    | nil => simp at h
    | cons c cs =>
      rw [List.map_cons, List.map_cons, List.cons.injEq] at h
      obtain ⟨d, hd, rfl⟩ := mem_variants_of_fold h.1
      obtain ⟨ds, rfl, hds⟩ := ih h.2
      exact ⟨d :: ds, rfl, .cons hd hds⟩

/-- A text that is the same as one of small letters and signs is a variant of it. -/
theorem isVariant_of_same {s t : Bytes} (ht : valid t = true)
    (hfolded : (read t).map fold = read t) (h : same s t = true) : IsVariant s t := by
  obtain ⟨cs, hcs, hread⟩ := exists_chars_of_valid ht
  have hmap : (read s).map fold = cs.map .char := by
    rw [← hread, ← hfolded]
    exact eq_of_beq h
  obtain ⟨ds, hds, hvariants⟩ := exists_variants hmap
  refine ⟨ds, cs, ?_, hcs, hvariants⟩
  rw [← write_read s, hds, write, List.flatMap_map]
  rfl

/-- A text is a variant of itself. -/
theorem isVariant_refl {s : Bytes} (h : valid s = true) : IsVariant s s := by
  obtain ⟨cs, hcs, -⟩ := exists_chars_of_valid h
  refine ⟨cs, cs, hcs, hcs, List.forall₂_same.mpr fun c _ => ?_⟩
  unfold variants
  split_ifs <;> simp

end DocPull.Fold
