import DocPull.Number.Numeral
import DocPull.Proofs.Outcome

/-!
# Decimal digits

The digits of a number, also those filled up with zeros, have the number as their value, and the
readers of numerals give this value back. An integer is read exactly from digits, after a sign or
without one, whose value fits.
-/
namespace DocPull

namespace Bytes

/-- The value of digits, after the value of what stands before them. -/
def valueFrom (n : Nat) (s : Bytes) : Nat := s.foldl (fun n d => 10 * n + (d.toNat - 0x30)) n

@[simp] theorem valueFrom_nil (n : Nat) : valueFrom n [] = n := rfl

@[simp] theorem valueFrom_cons (n : Nat) (b : UInt8) (s : Bytes) :
    valueFrom n (b :: s) = valueFrom (10 * n + (b.toNat - 0x30)) s := by
  simp only [valueFrom, List.foldl_cons]

theorem valueFrom_append (n : Nat) (s t : Bytes) :
    valueFrom n (s ++ t) = valueFrom (valueFrom n s) t := by
  simp [valueFrom]

theorem le_valueFrom (n : Nat) (s : Bytes) : n ≤ valueFrom n s := by
  induction s generalizing n with
  | nil => exact le_rfl
  | cons b s ih =>
    rw [valueFrom_cons]
    exact le_trans (by omega) (ih _)

theorem toNat_digit {d : Nat} (h : d < 10) : (0x30 + d).toUInt8.toNat = 0x30 + d := by
  have hall : ∀ d < 10, (0x30 + d).toUInt8.toNat = 0x30 + d := by decide
  exact hall d h

theorem isDigit_digit {d : Nat} (h : d < 10) : isDigit (0x30 + d).toUInt8 = true := by
  have hall : ∀ d < 10, isDigit (0x30 + d).toUInt8 = true := by decide
  exact hall d h

theorem isDigit_iff {b : UInt8} : isDigit b = true ↔ 0x30 ≤ b.toNat ∧ b.toNat ≤ 0x39 := by
  simp only [isDigit, Bool.and_eq_true, decide_eq_true_eq]
  rfl

theorem lower_digit {b : UInt8} (h : isDigit b = true) : lower b = b := by
  have hb := isDigit_iff.mp h
  refine if_neg fun hletter => ?_
  have hle : 0x41 ≤ b.toNat := hletter.1
  omega

theorem upper_digit {b : UInt8} (h : isDigit b = true) : upper b = b := by
  have hb := isDigit_iff.mp h
  refine if_neg fun hletter => ?_
  have hle : 0x61 ≤ b.toNat := hletter.1
  omega

theorem valueFrom_lt {s : Bytes} (hs : ∀ b ∈ s, isDigit b = true) (n : Nat) :
    valueFrom n s < (n + 1) * 10 ^ s.length := by
  induction s generalizing n with
  | nil => simp
  | cons b s ih =>
    rw [List.forall_mem_cons] at hs
    have hb := isDigit_iff.mp hs.1
    calc valueFrom n (b :: s)
        < (10 * n + (b.toNat - 0x30) + 1) * 10 ^ s.length := ih hs.2 _
      _ ≤ (10 * (n + 1)) * 10 ^ s.length := Nat.mul_le_mul_right _ (by omega)
      _ = (n + 1) * 10 ^ (s.length + 1) := by rw [pow_succ]; ring

theorem isDigit_of_mem_decimal {n : Nat} {b : UInt8} (h : b ∈ decimal n) : isDigit b = true := by
  induction n using decimal.induct with
  | case1 n hn =>
    rw [decimal, if_pos hn, List.mem_singleton] at h
    rw [h]
    exact isDigit_digit hn
  | case2 n hn ih =>
    rw [decimal, if_neg hn, List.mem_append, List.mem_singleton] at h
    obtain h | rfl := h
    · exact ih h
    · exact isDigit_digit (Nat.mod_lt n (by decide))

theorem not_mem_decimal {n : Nat} {b : UInt8} (h : isDigit b = false) : b ∉ decimal n := by
  intro hb
  rw [isDigit_of_mem_decimal hb] at h
  cases h

theorem signed_natCast (n : Nat) : signed n = decimal n := by
  rw [signed, if_neg (by omega), Int.natAbs_natCast]

theorem decimal_ne_nil (n : Nat) : decimal n ≠ [] := by
  rw [decimal]
  split_ifs <;> simp

/-- The digits of a positive number begin with no zero. -/
theorem decimal_first {n : Nat} (h : 0 < n) : ∃ b s, decimal n = b :: s ∧ b ≠ byte '0' := by
  induction n using decimal.induct with
  | case1 n hn =>
    have hall : ∀ n < 10, 0 < n → (0x30 + n).toUInt8 ≠ byte '0' := by decide
    exact ⟨_, _, by rw [decimal, if_pos hn], hall n hn h⟩
  | case2 n hn ih =>
    obtain ⟨b, s, hb, hzero⟩ := ih (by omega)
    exact ⟨b, _, by rw [decimal, if_neg hn, hb, List.cons_append], hzero⟩

/-- The digits of a number have it as their value. -/
@[simp] theorem valueFrom_decimal (n : Nat) : valueFrom 0 (decimal n) = n := by
  induction n using decimal.induct with
  | case1 n hn =>
    rw [decimal, if_pos hn, valueFrom_cons, valueFrom_nil, toNat_digit hn]
    omega
  | case2 n hn ih =>
    have hd : n % 10 < 10 := Nat.mod_lt n (by decide)
    rw [decimal, if_neg hn, valueFrom_append, ih, valueFrom_cons, valueFrom_nil, toNat_digit hd]
    omega

theorem length_decimal_le {w n : Nat} (hw : 0 < w) (h : n < 10 ^ w) : (decimal n).length ≤ w := by
  induction n using decimal.induct generalizing w with
  | case1 n hn =>
    rw [decimal, if_pos hn]
    exact hw
  | case2 n hn ih =>
    obtain ⟨w, rfl⟩ := Nat.exists_eq_add_one.mpr hw
    rw [pow_succ] at h
    have hpos : 0 < w := by
      rcases Nat.eq_zero_or_pos w with rfl | hpos
      · omega
      · exact hpos
    have hle := ih hpos (by omega)
    rw [decimal, if_neg hn, List.length_append, List.length_singleton]
    omega

theorem length_padded {w n : Nat} (hw : 0 < w) (h : n < 10 ^ w) : (padded w n).length = w := by
  have hle := length_decimal_le hw h
  simp only [padded, List.length_append, List.length_replicate]
  omega

theorem isDigit_of_mem_padded {w n : Nat} {b : UInt8} (h : b ∈ padded w n) : isDigit b = true := by
  simp only [padded, List.mem_append, List.mem_replicate] at h
  obtain ⟨-, rfl⟩ | h := h
  · decide
  · exact isDigit_of_mem_decimal h

theorem valueFrom_zeros (k : Nat) : valueFrom 0 (List.replicate k 0x30) = 0 := by
  induction k with
  | zero => rfl
  | succ k ih =>
    rw [List.replicate_succ, valueFrom_cons]
    exact ih

/-- Zeros on the left do not count. -/
@[simp] theorem valueFrom_padded (w n : Nat) : valueFrom 0 (padded w n) = n := by
  rw [padded, valueFrom_append, valueFrom_zeros, valueFrom_decimal]

theorem takeWhile_digits {s t : Bytes} (hs : ∀ b ∈ s, isDigit b = true)
    (ht : ∀ b ∈ t.head?, isDigit b = false) : (s ++ t).takeWhile isDigit = s := by
  rw [List.takeWhile_append_of_pos hs]
  cases t with
  | nil => simp
  | cons b t => simp [ht b (by simp)]

theorem decimal_injective : Function.Injective decimal := fun m n h => by
  rw [← valueFrom_decimal m, h, valueFrom_decimal]

end Bytes

namespace Numeral

open Bytes

/-- The digits of base ten are the decimal ones. -/
theorem digit?_decimal {b : UInt8} {d : Nat} :
    (digit? b).filter (· < 10) = some d ↔ isDigit b = true ∧ d = b.toNat - 0x30 := by
  by_cases hb : isDigit b = true
  · have hrange := isDigit_iff.mp hb
    simp only [digit?, hb, if_true, Option.filter_some, decide_eq_true_eq, true_and]
    rw [if_pos (by omega), Option.some.injEq, eq_comm]
  · refine iff_of_false ?_ fun h => hb h.1
    by_cases hl : isLetter b = true
    · simp [digit?, hb, hl, Option.filter_some]
    · simp [digit?, hb, hl]

/-- Digits are read as their value while it fits. -/
theorem unsigned_of_digits {s : Bytes} {n : Nat} (hs : ∀ b ∈ s, isDigit b = true)
    (hlt : valueFrom n s < 0x10000000000000000) : unsigned 10 false n s = .ok (valueFrom n s) := by
  induction s generalizing n with
  | nil => rfl
  | cons b s ih =>
    rw [List.forall_mem_cons] at hs
    rw [valueFrom_cons] at hlt ⊢
    have hle := le_valueFrom (10 * n + (b.toNat - 0x30)) s
    rw [unsigned, digit?_decimal.mpr ⟨hs.1, rfl⟩]
    simp only [Bool.false_and, Bool.false_eq_true, if_false]
    rw [if_neg (by omega), mul_comm n 10]
    exact ih hs.2 hlt

/-- Only digits are read, as their value, and only while it fits. -/
theorem unsigned_eq_ok {s : Bytes} {n m : Nat} (hn : n < 0x10000000000000000) :
    unsigned 10 false n s = .ok m ↔
      (∀ b ∈ s, isDigit b = true) ∧ valueFrom n s = m ∧ m < 0x10000000000000000 := by
  constructor
  · intro h
    induction s generalizing n with
    | nil =>
      cases h
      exact ⟨nofun, rfl, hn⟩
    | cons b s ih =>
      rw [unsigned] at h
      simp only [Bool.false_and, Bool.false_eq_true, if_false] at h
      split at h
      · cases h
      · rename_i d hd
        obtain ⟨hb, rfl⟩ := digit?_decimal.mp hd
        split_ifs at h with hlarge
        obtain ⟨hs, hvalue, hm⟩ := ih (by omega) h
        refine ⟨List.forall_mem_cons.mpr ⟨hb, hs⟩, ?_, hm⟩
        rw [valueFrom_cons, mul_comm, hvalue]
  · rintro ⟨hs, rfl, hm⟩
    exact unsigned_of_digits hs hm

theorem sign_cons_digit {b : UInt8} (hb : isDigit b = true) (s : Bytes) :
    sign (b :: s) = (false, b :: s) := by
  have hminus : b ≠ byte '-' := by
    rintro rfl
    exact absurd hb (by decide)
  have hplus : b ≠ byte '+' := by
    rintro rfl
    exact absurd hb (by decide)
  rw [sign, if_neg hminus, if_neg hplus]

theorem sign_of_digits {s : Bytes} (hs : ∀ b ∈ s, isDigit b = true) : sign s = (false, s) := by
  cases s with
  | nil => rfl
  | cons b s => exact sign_cons_digit (hs b (by simp)) s

/-- Decimal digits, at least one. -/
structure IsDigits (s : Bytes) : Prop where
  ne_nil : s ≠ []
  digits : ∀ b ∈ s, isDigit b = true

theorem isDigits_decimal (n : Nat) : IsDigits (decimal n) :=
  ⟨decimal_ne_nil n, fun _ => isDigit_of_mem_decimal⟩

/-- The integer that decimal digits stand for, after a sign or without one. -/
inductive Denotes : Bytes → Int → Prop
  | plain {s : Bytes} (h : IsDigits s) : Denotes s (valueFrom 0 s)
  | plus {s : Bytes} (h : IsDigits s) : Denotes (byte '+' :: s) (valueFrom 0 s)
  | minus {s : Bytes} (h : IsDigits s) : Denotes (byte '-' :: s) (-(valueFrom 0 s : Nat))

theorem denotes_decimal (n : Nat) : Denotes (decimal n) n := by
  simpa using Denotes.plain (isDigits_decimal n)

theorem denotes_signed (n : Int) : Denotes (signed n) n := by
  rw [signed]
  split_ifs with hn
  · have hminus := Denotes.minus (isDigits_decimal n.natAbs)
    rwa [valueFrom_decimal, show -(n.natAbs : Int) = n by omega] at hminus
  · have hplain := denotes_decimal n.natAbs
    rwa [show (n.natAbs : Int) = n by omega] at hplain

/-- What denotes an integer is read in two parts, its sign and its digits. -/
theorem denotes_iff {s : Bytes} {n : Int} :
    Denotes s n ↔ IsDigits (sign s).2 ∧
      n = if (sign s).1 then -(valueFrom 0 (sign s).2 : Int) else valueFrom 0 (sign s).2 := by
  constructor
  · intro h
    cases h with
    | plain h => exact sign_of_digits h.digits ▸ ⟨h, rfl⟩
    | plus h => exact ⟨h, rfl⟩
    | minus h => exact ⟨h, rfl⟩
  · rintro ⟨hdigits, rfl⟩
    cases s with
    | nil => exact absurd rfl hdigits.ne_nil
    | cons b s =>
      by_cases hminus : b = byte '-'
      · subst hminus
        exact .minus hdigits
      · by_cases hplus : b = byte '+'
        · subst hplus
          exact .plus hdigits
        · rw [sign, if_neg hminus, if_neg hplus] at hdigits ⊢
          exact .plain hdigits

/-- An integer of 64 bits. -/
def Fits (n : Int) : Prop := -0x8000000000000000 ≤ n ∧ n < 0x8000000000000000

theorem fits_zero : Fits 0 := ⟨by decide, by decide⟩

theorem withSign_eq_ok {negative : Bool} {n : Nat} {m : Int} :
    withSign negative n = .ok m ↔ m = (if negative then -(n : Int) else n) ∧ Fits m := by
  unfold withSign Fits
  split_ifs with hsign hn hn
  · rw [Except.ok.injEq]
    omega
  · refine iff_of_false nofun ?_
    omega
  · rw [Except.ok.injEq]
    omega
  · refine iff_of_false nofun ?_
    omega

/-- What is read as an integer is a sign or none, decimal digits, and a value that fits. -/
theorem integer_eq_ok {s : Bytes} {n : Int} : integer s = .ok n ↔ Denotes s n ∧ Fits n := by
  rw [denotes_iff]
  unfold integer
  dsimp only
  by_cases hempty : (sign s).2.isEmpty = true
  · rw [if_pos hempty]
    refine iff_of_false nofun fun h => ?_
    exact h.1.1.ne_nil (List.isEmpty_iff.mp hempty)
  · rw [if_neg hempty, Outcome.bind_eq_ok]
    constructor
    · rintro ⟨m, hm, hsigned⟩
      obtain ⟨hdigits, rfl, -⟩ := (unsigned_eq_ok (by decide)).mp hm
      obtain ⟨rfl, hfits⟩ := withSign_eq_ok.mp hsigned
      exact ⟨⟨⟨by simpa using hempty, hdigits⟩, rfl⟩, hfits⟩
    · rintro ⟨⟨hdigits, rfl⟩, hfits⟩
      refine ⟨_, (unsigned_eq_ok (by decide)).mpr ⟨hdigits.digits, rfl, ?_⟩,
        withSign_eq_ok.mpr ⟨rfl, hfits⟩⟩
      obtain ⟨hlo, hhi⟩ := hfits
      split_ifs at hlo hhi <;> omega

theorem integer_fits {s : Bytes} {n : Int} (h : integer s = .ok n) : Fits n :=
  (integer_eq_ok.mp h).2

/-- The text of an integer is read back. -/
theorem integer_signed {n : Int} (h : Fits n) : integer (signed n) = .ok n :=
  integer_eq_ok.mpr ⟨denotes_signed n, h⟩

/-- An integer that fits is not changed. -/
theorem wrap_eq_self {n : Int} (h : Fits n) : wrap n = n := by
  obtain ⟨hlo, hhi⟩ := h
  exact Int.bmod_eq_of_le (by omega) (by omega)

end Numeral

end DocPull
