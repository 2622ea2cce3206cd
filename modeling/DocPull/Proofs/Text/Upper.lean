import DocPull.Proofs.Text.Blank
import DocPull.Text.Fold

/-!
# Upper case

Upper case is that of ASCII letters, where a text is ASCII, and white space has none. An ASCII byte
in upper case comes from one ASCII byte, or from one of two characters beyond ASCII.
-/
namespace DocPull.Fold

open TextUnit

theorem upper_append {s : Bytes} (h : valid s = true) (t : Bytes) :
    upper (s ++ t) = upper s ++ upper t := by
  rw [upper, read_append h, List.flatMap_append]
  rfl

/-- In ASCII, upper case is that of the letters. -/
theorem upper_ascii {s : Bytes} (h : ∀ b ∈ s, b < 0x80) : upper s = s.map Bytes.upper := by
  have hall : ∀ b, b < 0x80 → upper [b] = [Bytes.upper b] := Bytes.forall_byte (by decide +kernel)
  induction s with
  | nil => rfl
  | cons b s ih =>
    rw [List.forall_mem_cons] at h
    have hvalid : valid [b] = true := valid_of_ascii (by simpa using h.1)
    rw [← List.singleton_append, upper_append hvalid, hall b h.1, ih h.2, List.map_append,
      List.map_singleton]

/-- White space has no upper case. -/
theorem upper_blank {s : Bytes} (h : Blank.IsBlankText s) : upper s = s := by
  obtain ⟨cs, hs, hread⟩ := exists_chars_of_valid h.valid
  rw [Blank.IsBlankText, hread] at h
  rw [upper, hread, List.flatMap_map, hs]
  refine List.flatMap_congr fun c hc => ?_
  have hblank : Blank.isBlankChar c = true := h _ (List.mem_map_of_mem hc)
  have hrange : ¬(97 ≤ c.toNat ∧ c.toNat ≤ 122) ∧ c.toNat ≠ 0x131 ∧ c.toNat ≠ 0x17F := by
    simp only [Blank.isBlankChar, Blank.ranges, List.any_cons, List.any_nil, Bool.or_eq_true,
      Bool.and_eq_true, decide_eq_true_eq, Bool.false_eq_true, or_false] at hblank
    omega
  have hdotless : c ≠ '\u0131' := fun he => hrange.2.1 (congrArg Char.toNat he)
  have hlong : c ≠ '\u017f' := fun he => hrange.2.2 (congrArg Char.toNat he)
  have hsmall : ¬('a' ≤ c ∧ c ≤ 'z') := hrange.1
  rw [upperOf, if_neg hsmall, if_neg hdotless, if_neg hlong]

theorem upperOf_ne_nil (u : TextUnit) : upperOf u ≠ [] := by
  have hencode : ∀ c, String.utf8EncodeChar c ≠ [] := by
    intro c hc
    have hlength := congrArg List.length hc
    rw [String.length_utf8EncodeChar] at hlength
    exact absurd hlength c.utf8Size_pos.ne'
  cases u with
  | stray b => exact hencode '\ufffd'
  | char c =>
    simp only [upperOf]
    split_ifs <;> exact hencode _

/-- How a unit comes by an ASCII byte as its upper case: as such a byte, or as one of two characters
beyond ASCII. -/
def Raises (u : TextUnit) (b : UInt8) : Prop :=
  (∃ a, u.bytes = [a] ∧ Bytes.upper a = b) ∨ u = .char '\u0131' ∧ b = byte 'I' ∨
    u = .char '\u017f' ∧ b = byte 'S'

/-- An ASCII byte in upper case is all there is of its unit. -/
theorem upperOf_of_ascii {u : TextUnit} {b : UInt8} (hb : b < 0x80) (h : b ∈ upperOf u) :
    upperOf u = [b] ∧ Raises u b := by
  have hsmall : b.toNat < 0x80 := hb
  cases u with
  | stray a =>
    have hbeyond := le_of_mem_encode (show 0x80 ≤ ('\ufffd').toNat by decide) h
    omega
  | char c =>
    simp only [upperOf] at h ⊢
    split_ifs at h ⊢ with hletter hdotless hlong
    · have hrange : 97 ≤ c.toNat ∧ c.toNat ≤ 122 := hletter
      have hall : ∀ n < 123, 97 ≤ n →
          String.utf8EncodeChar (Char.ofNat (n - 32)) = [Bytes.upper (byte (Char.ofNat n))] := by
        decide +kernel
      have hc := hall c.toNat (by omega) hrange.1
      rw [Char.ofNat_toNat] at hc
      rw [hc, List.mem_singleton] at h
      rw [hc, h]
      exact ⟨rfl, .inl ⟨byte c, encode_ascii (by omega), rfl⟩⟩
    · have hcapital : String.utf8EncodeChar 'I' = [byte 'I'] := by decide
      rw [hcapital, List.mem_singleton] at h
      rw [hcapital, h, hdotless]
      exact ⟨rfl, .inr (.inl ⟨rfl, rfl⟩)⟩
    · have hcapital : String.utf8EncodeChar 'S' = [byte 'S'] := by decide
      rw [hcapital, List.mem_singleton] at h
      rw [hcapital, h, hlong]
      exact ⟨rfl, .inr (.inr ⟨rfl, rfl⟩)⟩
    · have hc : c.toNat < 0x80 := by
        by_contra hbeyond
        have hle := le_of_mem_encode (not_lt.mp hbeyond) h
        omega
      have hsame : Bytes.upper (byte c) = byte c := by
        refine if_neg fun hrange => hletter ?_
        have hlow : 0x61 ≤ (byte c).toNat := hrange.1
        have hhigh : (byte c).toNat ≤ 0x7A := hrange.2
        rw [toNat_byte hc] at hlow hhigh
        exact ⟨hlow, hhigh⟩
      rw [encode_ascii hc, List.mem_singleton] at h
      rw [encode_ascii hc, h]
      exact ⟨rfl, .inl ⟨byte c, encode_ascii hc, hsame⟩⟩

/-- An ASCII text at the end of an upper case comes from as many units at the end. -/
theorem exists_raises {us : List TextUnit} {t : Bytes} (ht : ∀ b ∈ t, b < 0x80)
    (h : t <:+ us.flatMap upperOf) :
    ∃ front tail, us = front ++ tail ∧ List.Forall₂ Raises tail t := by
  induction t using List.reverseRecOn generalizing us with
  | nil => exact ⟨us, [], (List.append_nil us).symm, .nil⟩
  | append_singleton t b ih =>
    obtain ⟨p, hp⟩ := h
    rw [← List.append_assoc] at hp
    obtain rfl | ⟨us, u, rfl⟩ := List.eq_nil_or_concat us
    · simp at hp
    rw [List.concat_eq_append, List.flatMap_append, List.flatMap_singleton] at hp
    have hmem : b ∈ upperOf u := by
      have hlast := congrArg List.getLast? hp
      rw [List.getLast?_append_of_ne_nil _ (upperOf_ne_nil u), List.getLast?_concat] at hlast
      exact List.mem_of_getLast? hlast.symm
    obtain ⟨hu, hraises⟩ := upperOf_of_ascii (ht b (by simp)) hmem
    rw [hu] at hp
    obtain ⟨front, tail, rfl, htail⟩ :=
      ih (fun b hb => ht b (by simp [hb])) ⟨p, List.append_cancel_right hp⟩
    refine ⟨front, tail ++ [u], by simp, ?_⟩
    exact List.rel_append htail (.cons hraises .nil)

end DocPull.Fold
