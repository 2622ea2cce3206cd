import DocPull.Proofs.Size.Parse
import DocPull.Proofs.Size.Units

/-!
# Sizes as people write them

Decimal digits, white space and a unit in any case stand for the product of the number and the unit,
exactly as long as it has at most fifty-three bits. Digits alone stand for their number, exactly as
long as it fits 64 bits. White space around a size does not matter.
-/
namespace DocPull.Size

open Bytes Numeral Blank Binary64

variable {digits : Bytes}

theorem isFront_of_digits (h : ∀ b ∈ digits, isDigit b = true) {between : Bytes}
    (hbetween : IsBlankText between) : IsFront (digits ++ between) := by
  have hinner : ∀ b ∈ innerLetters, isDigit b = false := by decide +kernel
  refine isFront_around isBlankText_nil (isPrinting_of_digits h).ascii (fun b hb hmem => ?_)
    hbetween
  have hdigit := h b (List.mem_of_getLast? hb)
  rw [upper_digit hdigit] at hmem
  rw [hinner b hmem] at hdigit
  cases hdigit

theorem trim_of_digits (h : IsDigits digits) : trim digits = digits := by
  have hprinting := isPrinting_of_digits h.digits
  have hsplit : digits ++ [] = [] ++ digits := List.append_nil digits
  have htrim := trim_of_ends hsplit hprinting hprinting rfl h.ne_nil h.ne_nil
  rwa [List.append_nil] at htrim

/-- A product of at most fifty-three bits is exact: neither the number nor the product is changed
by rounding. -/
theorem scaled_of_digits (h : IsDigits digits) (size : Bytes) {unit : Nat} (hpos : 0 < unit)
    (hunit : unit < 2 ^ 53) (hproduct : valueFrom 0 digits * unit < 2 ^ 53) :
    scaled size digits unit = .ok (valueFrom 0 digits * unit : Nat) := by
  have hvalue : valueFrom 0 digits < 2 ^ 53 :=
    lt_of_le_of_lt (Nat.le_mul_of_pos_right _ hpos) hproduct
  have hexact : rounded (valueFrom 0 digits) 1 = valueFrom 0 digits :=
    rounded_natCast one_ne_zero (by simp) hvalue
  have hsmall : ((2 ^ 53 : Nat) : ℚ) ≤ 2 ^ 1024 := by
    rw [Nat.cast_pow, Nat.cast_ofNat]
    exact pow_le_pow_right₀ (by norm_num) (by decide)
  obtain ⟨hlarge, -⟩ | ⟨⟨hnegative, -⟩, -⟩ | ⟨-, a, b, hb, hab, hscaled⟩ :=
    scaled_cases size (named?_of_digits h.digits) (quotient?_of_digits h) hunit
  · rw [hexact] at hlarge
    have hlt : (valueFrom 0 digits : ℚ) < (2 ^ 53 : Nat) := by exact_mod_cast hvalue
    exact absurd (hlarge.trans_lt (hlt.trans_le hsmall)) (lt_irrefl _)
  · cases hnegative
  · rw [hexact, ← Nat.cast_mul] at hab
    have hrounded := rounded_natCast hb hab hproduct
    have hlt : rounded a b < 2 ^ 63 := by
      rw [hrounded]
      exact_mod_cast hproduct.trans (by decide)
    rw [hscaled, if_pos hlt, hrounded, Nat.floor_natCast]

section Around

variable {before after : Bytes}

/-- White space may stand around the size and before the unit. -/
theorem parse_units (hdigits : IsDigits digits) (hbefore : IsBlankText before)
    (hafter : IsBlankText after) {between suffix : Bytes} {unit : Nat}
    (hbetween : IsBlankText between) (hsuffix : Spells suffix unit)
    (hproduct : valueFrom 0 digits * unit < 2 ^ 53) :
    parse (before ++ (digits ++ between ++ suffix) ++ after) =
      .ok (valueFrom 0 digits * unit : Nat) := by
  have hprinting := isPrinting_of_digits hdigits.digits
  have hfront := isFront_of_digits hdigits.digits hbetween
  have hvalid := TextUnit.valid_append hfront.valid
    (TextUnit.valid_of_ascii hsuffix.isPrinting.ascii)
  have hsize : trim (before ++ (digits ++ between ++ suffix) ++ after) =
      digits ++ between ++ suffix := by
    have hends := trim_of_ends (List.append_assoc digits between suffix).symm hprinting
      hsuffix.isPrinting hfront.valid hdigits.ne_nil hsuffix.ne_nil
    rw [trim_around hbefore hvalid hafter, List.append_assoc]
    exact hends
  have hnumeral : trim (digits ++ between) = digits :=
    (trim_around isBlankText_nil (TextUnit.valid_of_ascii hprinting.ascii) hbetween).trans
      (trim_of_digits hdigits)
  obtain ⟨hpos, hunit⟩ := hsuffix.bounds
  rw [parse_of_unit (hsize ▸ unit?_append hfront hsuffix), hnumeral]
  exact scaled_of_digits hdigits _ hpos hunit hproduct

theorem trim_around_digits (hdigits : IsDigits digits) (hbefore : IsBlankText before)
    (hafter : IsBlankText after) : trim (before ++ digits ++ after) = digits := by
  have hvalid := TextUnit.valid_of_ascii (isPrinting_of_digits hdigits.digits).ascii
  rw [trim_around hbefore hvalid hafter, trim_of_digits hdigits]

/-- Digits without a unit are read as an integer that fits 64 bits. -/
theorem parse_digits_eq_ok (hdigits : IsDigits digits) (hbefore : IsBlankText before)
    (hafter : IsBlankText after) {n : Int} :
    parse (before ++ digits ++ after) = .ok n ↔
      n = valueFrom 0 digits ∧ valueFrom 0 digits ≤ 2 ^ 63 - 1 := by
  have htrim := trim_around_digits hdigits hbefore hafter
  have hne : trim (before ++ digits ++ after) ≠ [] := by
    rw [htrim]
    exact hdigits.ne_nil
  have hnone : unit? (trim (before ++ digits ++ after)) = none := by
    rw [htrim]
    exact unit?_of_integer (.plain hdigits)
  rw [parse_eq_ok_of_no_unit hne hnone, htrim, integer_eq_ok, denotes_iff,
    sign_of_digits hdigits.digits, and_iff_right hdigits]
  simp only [Bool.false_eq_true, if_false, Fits]
  omega

/-- What digits stand for: with a unit their product, as long as it has at most fifty-three bits,
and alone their number, as long as it fits 64 bits. A larger number alone is refused. -/
theorem parse_written (hdigits : IsDigits digits) (hbefore : IsBlankText before)
    (hafter : IsBlankText after) :
    (∀ between suffix unit, IsBlankText between → Spells suffix unit →
      valueFrom 0 digits * unit < 2 ^ 53 →
        parse (before ++ (digits ++ between ++ suffix) ++ after) =
          .ok (valueFrom 0 digits * unit : Nat)) ∧
      (valueFrom 0 digits ≤ 2 ^ 63 - 1 →
        parse (before ++ digits ++ after) = .ok (valueFrom 0 digits)) ∧
      (2 ^ 63 - 1 < valueFrom 0 digits → ∃ e, parse (before ++ digits ++ after) = .error e) := by
  refine ⟨fun between suffix unit => parse_units hdigits hbefore hafter, fun hfits => ?_,
    fun hlarge => ?_⟩
  · exact (parse_digits_eq_ok hdigits hbefore hafter).mpr ⟨rfl, hfits⟩
  · cases hparse : parse (before ++ digits ++ after) with
    | error e => exact ⟨e, rfl⟩
    | ok n =>
      have hle := ((parse_digits_eq_ok hdigits hbefore hafter).mp hparse).2
      omega

end Around

/-- Two mebibytes between a no-break space and a tab, with other white space before the unit. -/
theorem twoMebibytes_parsed :
    parse ("\u00a0" ++ ("2" ++ " \u3000" ++ "mIb") ++ "\t" : Bytes) = .ok 2097152 := by
  have hblank : IsBlankText "\u00a0" ∧ IsBlankText " \u3000" ∧ IsBlankText "\t" := by
    decide +kernel
  have hsuffix : Spells "mIb" (2 ^ 20) := ⟨"MiB", by decide, by decide⟩
  have hdigits : IsDigits "2" := ⟨by decide, by decide +kernel⟩
  exact (parse_written hdigits hblank.1 hblank.2.2).1 _ _ _ hblank.2.1 hsuffix (by decide)

end DocPull.Size
