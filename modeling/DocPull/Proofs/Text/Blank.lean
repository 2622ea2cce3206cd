import DocPull.Proofs.Number.Decimal
import DocPull.Proofs.Text.Unit
import Mathlib.Data.List.TakeWhile

/-!
# White space around a text

A text that is UTF-8 throughout is read unit by unit, whatever follows it. White space before and
after such a text is trimmed away with its own, and what is trimmed away from any text is white
space.
-/
namespace DocPull

namespace TextUnit

/-- A text that is UTF-8 throughout is read before what follows it. -/
theorem read_append {s : Bytes} (h : valid s = true) (t : Bytes) :
    read (s ++ t) = read s ++ read t := by
  obtain ⟨cs, hs, hread⟩ := exists_chars_of_valid h
  rw [hread, hs]
  clear h hs hread
  induction cs with
  | nil => rfl
  | cons c cs ih =>
    rw [List.flatMap_cons, List.append_assoc, read_encode_append, ih]
    rfl

theorem valid_append {s t : Bytes} (hs : valid s = true) (ht : valid t = true) :
    valid (s ++ t) = true := by
  rw [valid, read_append hs, List.all_append, Bool.and_eq_true]
  exact ⟨hs, ht⟩

end TextUnit

namespace Blank

open TextUnit

/-- A text of white space only. -/
def IsBlankText (s : Bytes) : Prop := ∀ u ∈ read s, isBlank u = true

instance (s : Bytes) : Decidable (IsBlankText s) :=
  List.decidableBAll (fun u => isBlank u = true) (read s)

theorem isBlankText_nil : IsBlankText [] := nofun

theorem IsBlankText.valid {s : Bytes} (h : IsBlankText s) : valid s = true := by
  refine List.all_eq_true.mpr fun u hu => ?_
  cases u with
  | char c => rfl
  | stray b => exact absurd (h _ hu) Bool.false_ne_true

/-- White space around a text does not matter. -/
theorem trim_around {before s after : Bytes} (hbefore : IsBlankText before)
    (hs : TextUnit.valid s = true) (hafter : IsBlankText after) :
    trim (before ++ s ++ after) = trim s := by
  have hread : read (before ++ s ++ after) = read before ++ read s ++ read after := by
    rw [read_append (valid_append hbefore.valid hs), read_append hbefore.valid]
  rw [trim, trim, hread, List.append_assoc, List.dropWhile_append_of_pos hbefore,
    List.dropWhile_append]
  split_ifs with hempty
  · rw [List.isEmpty_iff.mp hempty, List.dropWhile_eq_nil_iff.mpr hafter]
  · rw [List.reverse_append, List.dropWhile_append_of_pos]
    intro u hu
    exact hafter u (List.mem_reverse.mp hu)

theorem isBlankText_write {us : List TextUnit} (h : ∀ u ∈ us, isBlank u = true) :
    IsBlankText (write us) := by
  induction us with
  | nil => exact isBlankText_nil
  | cons u us ih =>
    rw [List.forall_mem_cons] at h
    cases u with
    | stray b => exact absurd h.1 Bool.false_ne_true
    | char c =>
      rw [IsBlankText, write_cons, bytes, read_encode_append, List.forall_mem_cons]
      exact ⟨h.1, ih h.2⟩

/-- What trimming takes away is white space. -/
theorem exists_around (s : Bytes) :
    ∃ before after, IsBlankText before ∧ IsBlankText after ∧ s = before ++ trim s ++ after := by
  have hblank : ∀ us : List TextUnit, ∀ u ∈ us.takeWhile isBlank, isBlank u = true :=
    fun _ _ => List.mem_takeWhile_imp
  refine ⟨write ((read s).takeWhile isBlank),
    write (((read s).dropWhile isBlank).reverse.takeWhile isBlank).reverse,
    isBlankText_write (hblank _), isBlankText_write ?_, ?_⟩
  · intro u hu
    exact hblank _ u (List.mem_reverse.mp hu)
  · rw [trim, ← write_append, ← write_append, List.append_assoc, ← List.reverse_append,
      List.takeWhile_append_dropWhile, List.reverse_reverse, List.takeWhile_append_dropWhile,
      write_read]

/-- No byte of white space is a letter. -/
theorem IsBlankText.not_isLetter {s : Bytes} (h : IsBlankText s) :
    ∀ b ∈ s, Bytes.isLetter b = false := by
  have hascii : ∀ n < 0x80, isBlankChar (Char.ofNat n) = true →
      Bytes.isLetter (byte (Char.ofNat n)) = false := by decide +kernel
  have hbeyond : ∀ b : UInt8, 0x80 ≤ b.toNat → Bytes.isLetter b = false :=
    Bytes.forall_byte (by decide +kernel)
  obtain ⟨cs, hs, hread⟩ := exists_chars_of_valid h.valid
  rw [IsBlankText, hread] at h
  intro b hb
  rw [hs, List.mem_flatMap] at hb
  obtain ⟨c, hc, hb⟩ := hb
  by_cases hsmall : c.toNat < 0x80
  · rw [encode_ascii hsmall, List.mem_singleton] at hb
    have hletter := hascii c.toNat hsmall
    rw [Char.ofNat_toNat, ← hb] at hletter
    exact hletter (h _ (List.mem_map_of_mem hc))
  · exact hbeyond b (le_of_mem_encode (not_lt.mp hsmall) hb)

/-- A text of printing ASCII characters. -/
def IsPrinting (s : Bytes) : Prop := ∀ b ∈ s, 0x20 < b.toNat ∧ b.toNat < 0x7F

instance (s : Bytes) : Decidable (IsPrinting s) :=
  List.decidableBAll (fun b : UInt8 => 0x20 < b.toNat ∧ b.toNat < 0x7F) s

theorem IsPrinting.ascii {s : Bytes} (h : IsPrinting s) : ∀ b ∈ s, b < 0x80 := fun b hb =>
  show b.toNat < 0x80 from (h b hb).2.trans (by decide)

theorem isPrinting_of_digits {s : Bytes} (h : ∀ b ∈ s, Bytes.isDigit b = true) : IsPrinting s := by
  intro b hb
  have hrange := Bytes.isDigit_iff.mp (h b hb)
  omega

/-- Printing characters are no white space. -/
theorem IsPrinting.not_isBlank {s : Bytes} (h : IsPrinting s) :
    ∀ u ∈ read s, isBlank u = false := by
  have hall : ∀ n < 0x7F, 0x20 < n → isBlankChar (Char.ofNat n) = false := by decide +kernel
  rw [read_ascii h.ascii]
  intro u hu
  obtain ⟨b, hb, rfl⟩ := List.mem_map.mp hu
  exact hall b.toNat (h b hb).2 (h b hb).1

theorem read_ne_nil {s : Bytes} (h : s ≠ []) : read s ≠ [] := by
  intro hread
  rw [← write_read s, hread] at h
  exact h rfl

/-- A text with printing characters at its ends is not trimmed. -/
theorem trim_of_ends {first rest front last : Bytes} (hsplit : first ++ rest = front ++ last)
    (hfirst : IsPrinting first) (hlast : IsPrinting last) (hfront : TextUnit.valid front = true)
    (hfirst' : first ≠ []) (hlast' : last ≠ []) : trim (first ++ rest) = first ++ rest := by
  refine trim_eq_self ?_ ?_
  · rw [read_append (valid_of_ascii hfirst.ascii),
      List.head?_append_of_ne_nil _ (read_ne_nil hfirst')]
    exact fun u hu => hfirst.not_isBlank u (List.mem_of_mem_head? hu)
  · rw [hsplit, read_append hfront, List.getLast?_append_of_ne_nil _ (read_ne_nil hlast')]
    exact fun u hu => hlast.not_isBlank u (List.mem_of_mem_getLast? hu)

end Blank

end DocPull
