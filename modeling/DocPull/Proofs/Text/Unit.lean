import DocPull.Proofs.Bytes
import DocPull.Text.Blank
import Mathlib.Tactic

/-!
# Reading characters back

Reading the encoding of a character gives the character, whatever follows, and the units of a text
together are the text. So a text that is UTF-8 throughout is the encoding of its characters.
-/
namespace DocPull

namespace TextUnit

theorem scalar?_toNat {c : Char} {least : Nat} (h : least ≤ c.toNat) :
    scalar? least c.toNat = some c := by
  have hv : c.toNat.isValidChar := c.valid
  rw [scalar?, dif_pos ⟨h, hv⟩]
  exact congrArg some (Char.ext rfl)

theorem toNat_of_scalar? {c : Char} {least value : Nat} (h : scalar? least value = some c) :
    c.toNat = value ∧ least ≤ value := by
  by_cases hv : least ≤ value ∧ value.isValidChar
  · rw [scalar?, dif_pos hv, Option.some.injEq] at h
    rw [← h]
    exact ⟨rfl, hv.1⟩
  · rw [scalar?, dif_neg hv] at h
    cases h

theorem tail?_ofNat {k : Nat} (h : k < 64) : tail? (UInt8.ofNat (k + 0x80)) = some k := by
  have hall : ∀ k < 64, tail? (UInt8.ofNat (k + 0x80)) = some k := by decide
  exact hall k h

theorem eq_of_tail? {b : UInt8} {k : Nat} (h : tail? b = some k) :
    k < 64 ∧ b = UInt8.ofNat (k + 0x80) := by
  have hall : ∀ b, ∀ k ∈ tail? b, k < 64 ∧ b = UInt8.ofNat (k + 0x80) :=
    Bytes.forall_byte (by decide +kernel)
  exact hall b k h

theorem toNat_lt (c : Char) : c.toNat < 0x110000 := by
  have h : c.toNat.isValidChar := c.valid
  simp only [Nat.isValidChar] at h
  omega

theorem ofNat_lt_iff {n m : Nat} (hn : n < 256) (hm : m < 256) :
    UInt8.ofNat n < UInt8.ofNat m ↔ n < m := by
  rw [UInt8.lt_iff_toNat_lt, UInt8.toNat_ofNat', UInt8.toNat_ofNat', Nat.mod_eq_of_lt hn,
    Nat.mod_eq_of_lt hm]

/-- The bounds between the kinds of first bytes. -/
theorem lead_bounds {n : Nat} (h : n < 256) :
    (UInt8.ofNat n < 0x80 ↔ n < 0x80) ∧ (UInt8.ofNat n < 0xC0 ↔ n < 0xC0) ∧
      (UInt8.ofNat n < 0xE0 ↔ n < 0xE0) ∧ (UInt8.ofNat n < 0xF0 ↔ n < 0xF0) ∧
      (UInt8.ofNat n < 0xF8 ↔ n < 0xF8) :=
  ⟨ofNat_lt_iff h (by decide), ofNat_lt_iff h (by decide), ofNat_lt_iff h (by decide),
    ofNat_lt_iff h (by decide), ofNat_lt_iff h (by decide)⟩

/-- The encoding of a character is read as this character, whatever follows. -/
theorem lead?_encode (c : Char) (s : Bytes) :
    ∃ b tail, String.utf8EncodeChar c = b :: tail ∧
      lead? b (tail ++ s) = some (c, tail.length) := by
  have hv : c.val.toNat = c.toNat := rfl
  have hlt := toNat_lt c
  have hmod : ∀ n, n % 0x40 < 64 := fun n => Nat.mod_lt n (by decide)
  simp only [String.utf8EncodeChar, hv]
  split_ifs with h₁ h₂ h₃
  · refine ⟨_, _, rfl, ?_⟩
    obtain ⟨ha, -⟩ := lead_bounds (show c.toNat < 256 by omega)
    have hn : (UInt8.ofNat c.toNat).toNat = c.toNat := UInt8.toNat_ofNat_of_lt' (by
      simp only [UInt8.size]
      omega)
    simp only [lead?, ha, show c.toNat < 0x80 by omega, if_true, hn, scalar?_toNat (Nat.zero_le _)]
    rfl
  · refine ⟨_, _, rfl, ?_⟩
    have hb : c.toNat / 64 % 0x20 + 0xc0 < 256 := by omega
    obtain ⟨ha, hb', hc, -⟩ := lead_bounds hb
    have hn := UInt8.toNat_ofNat_of_lt' hb
    have hvalue : (c.toNat / 64 % 0x20 + 0xc0) % 32 * 64 + c.toNat % 0x40 = c.toNat := by omega
    simp only [lead?, ha, hb', hc, hn, List.cons_append, tail?_ofNat (hmod _), Option.bind_eq_bind,
      Option.bind_some, hvalue, scalar?_toNat (show 0x80 ≤ c.toNat by omega)]
    rw [if_neg (by omega), if_neg (by omega), if_pos (by omega)]
    rfl
  · refine ⟨_, _, rfl, ?_⟩
    have hb : c.toNat / 4096 % 0x10 + 0xe0 < 256 := by omega
    obtain ⟨ha, hb', hc, hd, -⟩ := lead_bounds hb
    have hn := UInt8.toNat_ofNat_of_lt' hb
    have hvalue : ((c.toNat / 4096 % 0x10 + 0xe0) % 16 * 64 + c.toNat / 64 % 0x40) * 64 +
        c.toNat % 0x40 = c.toNat := by omega
    simp only [lead?, ha, hb', hc, hd, hn, List.cons_append, tail?_ofNat (hmod _),
      Option.bind_eq_bind, Option.bind_some, hvalue, scalar?_toNat (show 0x800 ≤ c.toNat by omega)]
    rw [if_neg (by omega), if_neg (by omega), if_neg (by omega), if_pos (by omega)]
    rfl
  · refine ⟨_, _, rfl, ?_⟩
    have hb : c.toNat / 262144 % 0x8 + 0xf0 < 256 := by omega
    obtain ⟨ha, hb', hc, hd, he⟩ := lead_bounds hb
    have hn := UInt8.toNat_ofNat_of_lt' hb
    have hvalue : (((c.toNat / 262144 % 0x8 + 0xf0) % 8 * 64 + c.toNat / 4096 % 0x40) * 64 +
        c.toNat / 64 % 0x40) * 64 + c.toNat % 0x40 = c.toNat := by omega
    simp only [lead?, ha, hb', hc, hd, he, hn, List.cons_append, tail?_ofNat (hmod _),
      Option.bind_eq_bind, Option.bind_some, hvalue,
      scalar?_toNat (show 0x10000 ≤ c.toNat by omega)]
    rw [if_neg (by omega), if_neg (by omega), if_neg (by omega), if_neg (by omega),
      if_pos (by omega)]
    rfl

/-- A character that was read is encoded by the bytes it was read from. -/
theorem encode_of_lead? {b : UInt8} {s : Bytes} {c : Char} {n : Nat}
    (h : lead? b s = some (c, n)) : String.utf8EncodeChar c = b :: s.take n ∧ n ≤ s.length := by
  have hv : c.val.toNat = c.toNat := rfl
  have hself : ∀ k, k = b.toNat → UInt8.ofNat k = b := by
    rintro k rfl
    exact UInt8.ofNat_toNat
  have hmod := b.toNat_lt
  simp only [lead?] at h
  split_ifs at h with h₁ h₂ h₃ h₄ h₅
  · have hlt : b.toNat < 0x80 := h₁
    simp only [Option.map_eq_some_iff, Prod.mk.injEq] at h
    obtain ⟨c', hc, rfl, rfl⟩ := h
    obtain ⟨hn, -⟩ := toNat_of_scalar? hc
    simp only [String.utf8EncodeChar, hv, hn, show b.toNat ≤ 0x7f by omega, if_true, hself _ rfl,
      List.take_zero, Nat.zero_le, and_self]
  · have hle : ¬b.toNat < 0xC0 := h₂
    have hlt : b.toNat < 0xE0 := h₃
    split at h
    · rename_i b₁ rest
      simp only [Option.bind_eq_bind, Option.bind_eq_some_iff, Option.pure_def, Option.some.injEq,
        Prod.mk.injEq] at h
      obtain ⟨t₁, ht₁, c', hc, rfl, rfl⟩ := h
      obtain ⟨hn, hmin⟩ := toNat_of_scalar? hc
      obtain ⟨hlt₁, rfl⟩ := eq_of_tail? ht₁
      simp only [String.utf8EncodeChar, hv]
      rw [if_neg (by omega), if_pos (by omega), hself _ (by omega),
        show c'.toNat % 0x40 = t₁ by omega]
      simp
    · simp at h
  · have hle : ¬b.toNat < 0xE0 := h₃
    have hlt : b.toNat < 0xF0 := h₄
    split at h
    · rename_i b₁ b₂ rest
      simp only [Option.bind_eq_bind, Option.bind_eq_some_iff, Option.pure_def, Option.some.injEq,
        Prod.mk.injEq] at h
      obtain ⟨t₁, ht₁, t₂, ht₂, c', hc, rfl, rfl⟩ := h
      obtain ⟨hn, hmin⟩ := toNat_of_scalar? hc
      obtain ⟨hlt₁, rfl⟩ := eq_of_tail? ht₁
      obtain ⟨hlt₂, rfl⟩ := eq_of_tail? ht₂
      simp only [String.utf8EncodeChar, hv]
      rw [if_neg (by omega), if_neg (by omega), if_pos (by omega), hself _ (by omega),
        show c'.toNat / 64 % 0x40 = t₁ by omega, show c'.toNat % 0x40 = t₂ by omega]
      simp
    · simp at h
  · have hle : ¬b.toNat < 0xF0 := h₄
    have hlt : b.toNat < 0xF8 := h₅
    split at h
    · rename_i b₁ b₂ b₃ rest
      simp only [Option.bind_eq_bind, Option.bind_eq_some_iff, Option.pure_def, Option.some.injEq,
        Prod.mk.injEq] at h
      obtain ⟨t₁, ht₁, t₂, ht₂, t₃, ht₃, c', hc, rfl, rfl⟩ := h
      obtain ⟨hn, hmin⟩ := toNat_of_scalar? hc
      obtain ⟨hlt₁, rfl⟩ := eq_of_tail? ht₁
      obtain ⟨hlt₂, rfl⟩ := eq_of_tail? ht₂
      obtain ⟨hlt₃, rfl⟩ := eq_of_tail? ht₃
      simp only [String.utf8EncodeChar, hv]
      rw [if_neg (by omega), if_neg (by omega), if_neg (by omega), hself _ (by omega),
        show c'.toNat / 4096 % 0x40 = t₁ by omega, show c'.toNat / 64 % 0x40 = t₂ by omega,
        show c'.toNat % 0x40 = t₃ by omega]
      simp
    · simp at h

theorem readFrom_length_append (s t : Bytes) : readFrom s.length (s ++ t) = read t := by
  induction s with
  | nil => rfl
  | cons b s ih => simpa [readFrom] using ih

/-- A character is read back before what follows it. -/
theorem read_encode_append (c : Char) (s : Bytes) :
    read (String.utf8EncodeChar c ++ s) = .char c :: read s := by
  obtain ⟨b, tail, hc, hl⟩ := lead?_encode c s
  rw [hc, read, List.cons_append, readFrom, hl]
  simp only [readFrom_length_append]

theorem valid_encode_append (c : Char) (s : Bytes) :
    valid (String.utf8EncodeChar c ++ s) = valid s := by
  rw [valid, read_encode_append, List.all_cons, Bool.true_and]
  rfl

theorem write_readFrom (skip : Nat) (s : Bytes) : write (readFrom skip s) = s.drop skip := by
  induction s generalizing skip with
  | nil => simp [readFrom]
  | cons b s ih =>
    cases skip with
    | succ skip => simpa [readFrom] using ih skip
    | zero =>
      rw [readFrom]
      cases hl : lead? b s with
      | none => simp [bytes, ih]
      | some r =>
        obtain ⟨hc, -⟩ := encode_of_lead? hl
        simp [bytes, hc, ih]

/-- The units of a text are the text. -/
@[simp] theorem write_read (s : Bytes) : write (read s) = s := by
  simp [read, write_readFrom]

/-- Units among which no byte is stray are characters. -/
theorem exists_chars_of_all {us : List TextUnit} (h : (us.all fun
      | char _ => true
      | stray _ => false) = true) : ∃ cs : List Char, us = cs.map .char := by
  induction us with
  | nil => exact ⟨[], rfl⟩
  | cons u us ih =>
    simp only [List.all_cons, Bool.and_eq_true] at h
    obtain ⟨cs, rfl⟩ := ih h.2
    cases u with
    | char c => exact ⟨c :: cs, rfl⟩
    | stray b => simp at h

/-- A text that is UTF-8 throughout is the encoding of characters. -/
theorem exists_chars_of_valid {s : Bytes} (h : valid s = true) :
    ∃ cs : List Char, s = cs.flatMap String.utf8EncodeChar ∧ read s = cs.map .char := by
  obtain ⟨cs, hcs⟩ := exists_chars_of_all h
  refine ⟨cs, ?_, hcs⟩
  rw [← write_read s, hcs, write, List.flatMap_map]
  rfl

theorem encode_ascii {c : Char} (h : c.toNat < 0x80) : String.utf8EncodeChar c = [byte c] := by
  have hv : c.val.toNat = c.toNat := rfl
  simp only [String.utf8EncodeChar, hv, show c.toNat ≤ 0x7f by omega, if_true]
  rfl

theorem toNat_byte {c : Char} (h : c.toNat < 0x80) : (byte c).toNat = c.toNat := by
  rw [byte]
  exact UInt8.toNat_ofNat_of_lt' (by
    simp only [UInt8.size]
    omega)

/-- No byte of a character beyond ASCII is ASCII. -/
theorem le_of_mem_encode {c : Char} {b : UInt8} (h : 0x80 ≤ c.toNat)
    (hb : b ∈ String.utf8EncodeChar c) : 0x80 ≤ b.toNat := by
  have hv : c.val.toNat = c.toNat := rfl
  have hge : ∀ n, 0x80 ≤ n → n < 256 → 0x80 ≤ (UInt8.ofNat n).toNat := by
    intro n hle hlt
    rw [UInt8.toNat_ofNat', Nat.mod_eq_of_lt hlt]
    exact hle
  simp only [String.utf8EncodeChar, hv] at hb
  split_ifs at hb with h₁ h₂ h₃
  · omega
  · simp only [List.mem_cons, List.not_mem_nil, or_false] at hb
    obtain rfl | rfl := hb <;> exact hge _ (by omega) (by omega)
  · simp only [List.mem_cons, List.not_mem_nil, or_false] at hb
    obtain rfl | rfl | rfl := hb <;> exact hge _ (by omega) (by omega)
  · simp only [List.mem_cons, List.not_mem_nil, or_false] at hb
    obtain rfl | rfl | rfl | rfl := hb <;> exact hge _ (by omega) (by omega)

theorem read_byte {c : Char} (h : c.toNat < 0x80) (s : Bytes) :
    read (byte c :: s) = .char c :: read s := by
  rw [← read_encode_append, encode_ascii h, List.singleton_append]

/-- ASCII bytes are characters of their own. -/
theorem read_ascii {s : Bytes} (h : ∀ b ∈ s, b < 0x80) :
    read s = s.map fun b => .char (Char.ofNat b.toNat) := by
  induction s with
  | nil => rfl
  | cons b s ih =>
    rw [List.forall_mem_cons] at h
    have hb : b.toNat < 0x80 := h.1
    have hn : (Char.ofNat b.toNat).toNat = b.toNat := by
      have hvalid : b.toNat.isValidChar := .inl (by omega)
      rw [Char.ofNat, dif_pos hvalid]
      rfl
    have hbyte : byte (Char.ofNat b.toNat) = b := by
      rw [byte, hn]
      exact UInt8.ofNat_toNat
    have hread := read_byte (show (Char.ofNat b.toNat).toNat < 0x80 by omega) s
    rw [hbyte] at hread
    rw [hread, ih h.2, List.map_cons]

theorem valid_of_ascii {s : Bytes} (h : ∀ b ∈ s, b < 0x80) : valid s = true := by
  rw [valid, read_ascii h, List.all_map]
  exact List.all_eq_true.mpr fun _ _ => rfl

end TextUnit

theorem Blank.trim_eq_self {s : Bytes} (hfirst : ∀ u ∈ (TextUnit.read s).head?, isBlank u = false)
    (hlast : ∀ u ∈ (TextUnit.read s).getLast?, isBlank u = false) : trim s = s := by
  have hdrop : ∀ us : List TextUnit, (∀ u ∈ us.head?, isBlank u = false) →
      us.dropWhile isBlank = us := by
    intro us hus
    cases us with
    | nil => rfl
    | cons u us => simp [hus u (by simp)]
  rw [trim, hdrop _ hfirst, hdrop _ (by simpa using hlast), List.reverse_reverse,
    TextUnit.write_read]

end DocPull
