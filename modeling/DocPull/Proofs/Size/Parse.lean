import DocPull.Proofs.Number.Quotient
import DocPull.Size

/-!
# Reading sizes

A size is blank, or a number of units, or an integer. The numeral before a unit is rounded when it
is read, and its product with the unit is rounded once more before it is cut to an integer; each of
the ways this can end is told by the two rounded numbers.
-/
namespace DocPull.Size

open Numeral Binary64

variable {size numeral : Bytes} {unit : Nat}

theorem scaled_of_no_number (hname : named? numeral = none) (h : quotient? numeral = none) :
    scaled size numeral unit = .error (.number size numeral .badSyntax) := by
  simp only [scaled, binary64, hname, h]

theorem scaled_of_nan (h : named? numeral = some .nan) : scaled size numeral unit = .ok minInt := by
  simp only [scaled, binary64, h]
  rfl

/-- Infinitely many units are cut to the smallest integer. -/
theorem scaled_of_infinite (hunit : unit < 2 ^ 53) (h : named? numeral = some (.infinite false)) :
    scaled size numeral unit = .ok minInt := by
  obtain ⟨n, f, hn, -⟩ := ofInt_natCast hunit
  have hsign : (infinite false).isNegative = false := rfl
  have hcut : (mul (infinite false) (finite false n f)).truncate = minInt := by
    rw [mul]
    split_ifs <;> rfl
  simp only [scaled, binary64, h, hsign, hn, hcut, Bool.false_eq_true, if_false]

theorem scaled_of_negative_infinite (h : named? numeral = some (.infinite true)) :
    scaled size numeral unit = .error (.negative size) := by
  simp only [scaled, binary64, h]
  rfl

/-- A number of units is refused when it is too large for binary64 or when it is rounded to a
negative one. Else the product is rounded and cut to an integer. -/
theorem scaled_cases (size : Bytes) {negative : Bool} {num den : Nat}
    (hname : named? numeral = none) (h : quotient? numeral = some (negative, num, den))
    (hunit : unit < 2 ^ 53) :
    2 ^ 1024 ≤ rounded num den ∧
        scaled size numeral unit = .error (.number size numeral .outOfRange) ∨
      (negative = true ∧ 0 < rounded num den) ∧
        scaled size numeral unit = .error (.negative size) ∨
      (rounded num den < 2 ^ 1024 ∧ (negative = true → rounded num den = 0)) ∧
        ∃ a b : Nat, b ≠ 0 ∧ (a : ℚ) / b = rounded num den * unit ∧
          scaled size numeral unit =
            .ok (if rounded a b < 2 ^ 63 then (⌊rounded a b⌋₊ : Int) else minInt) := by
  obtain ⟨hread, hlarge⟩ | ⟨m, e, hread, hvalue, hsmall⟩ := binary64_cases hname h
  · exact .inl ⟨hlarge, by simp only [scaled, hread]⟩
  rw [← hvalue] at hsmall ⊢
  have hpow := two_zpow_pos e
  by_cases hnegative : negative = true ∧ m ≠ 0
  · have hm : (0 : ℚ) < m := by exact_mod_cast Nat.pos_of_ne_zero hnegative.2
    refine .inr (.inl ⟨⟨hnegative.1, mul_pos hm hpow⟩, ?_⟩)
    simp only [scaled, hread, isNegative_finite.mpr hnegative, if_true]
  · obtain ⟨a, b, hb, hproduct, hmul⟩ := mul_ofInt negative m e hunit
    have hzero : negative = true → m = 0 := by simpa using hnegative
    have hscaled : scaled size numeral unit = .ok (ofRatio negative a b).truncate := by
      simp only [scaled, hread, mt isNegative_finite.mp hnegative, Bool.false_eq_true, if_false,
        hmul]
    refine .inr (.inr ⟨⟨hsmall, fun hn => ?_⟩, a, b, hb, hproduct, ?_⟩)
    · rw [hzero hn, Nat.cast_zero, zero_mul]
    · rw [hscaled]
      cases negative with
      | false => rw [truncate_ofRatio hb]
      | true =>
        -- A zero keeps its sign in the product and loses it as an integer.
        have ha : a = 0 := by
          rw [hzero rfl, Nat.cast_zero, zero_mul, zero_mul, div_eq_zero_iff] at hproduct
          exact_mod_cast hproduct.resolve_right (by exact_mod_cast hb)
        subst ha
        rw [rounded_zero, if_pos (by norm_num), Nat.floor_zero, truncate_ofRatio_zero,
          Nat.cast_zero]

variable {input : Bytes}

theorem parse_blank (h : Blank.trim input = []) : parse input = .ok 0 := by
  simp only [parse, h, true_or, if_true]

theorem parse_of_unit (h : unit? (Blank.trim input) = some (numeral, unit)) :
    parse input = scaled (Blank.trim input) (Blank.trim numeral) unit := by
  have hnone : unit? [] = none ∧ unit? (utf8 "0") = none := by decide +kernel
  have hne : ¬(Blank.trim input = [] ∨ Blank.trim input = utf8 "0") := by
    rintro (hs | hs)
    · rw [hs, hnone.1] at h
      cases h
    · rw [hs, hnone.2] at h
      cases h
  simp only [parse, if_neg hne, h]

/-- Without a unit, the integers that are not negative are the sizes. -/
theorem parse_eq_ok_of_no_unit (hne : Blank.trim input ≠ []) (h : unit? (Blank.trim input) = none)
    {n : Int} : parse input = .ok n ↔ Numeral.integer (Blank.trim input) = .ok n ∧ 0 ≤ n := by
  by_cases hzero : Blank.trim input = utf8 "0"
  · have hinteger : Numeral.integer (utf8 "0") = .ok 0 := by decide
    simp only [parse, hzero, or_true, if_true, hinteger, Except.ok.injEq]
    omega
  · simp only [parse, hne, hzero, or_self, if_false, h]
    cases Numeral.integer (Blank.trim input) with
    | error f => exact iff_of_false nofun nofun
    | ok m =>
      simp only [Except.ok.injEq]
      split_ifs with hm
      · refine iff_of_false nofun ?_
        omega
      · rw [Except.ok.injEq]
        omega

end DocPull.Size
