import DocPull.Proofs.Number.Rounding

/-!
# Rounding keeps the order

The nearest integer lies within one half of a quotient, and a larger quotient has no smaller one.
The same is true of what quotients are rounded to: among quotients with one exponent the mantissas
are nearest integers, and a larger exponent has the larger numbers.
-/
namespace DocPull.Binary64

variable {num den num' den' : Nat}

/-- A larger quotient has no smaller nearest integer. -/
theorem nearest_mono (hden : 0 < den) (hden' : 0 < den')
    (h : (num : ℚ) / den ≤ num' / den') : nearest num den ≤ nearest num' den' := by
  rw [div_le_div_iff₀ (by exact_mod_cast hden) (by exact_mod_cast hden')] at h
  have hcross : num * den' ≤ num' * den := by exact_mod_cast h
  rcases Nat.eq_zero_or_pos (nearest num den) with hzero | hpos
  · omega
  have hreaches := (le_nearest_iff hpos hden).mp le_rfl
  rw [le_nearest_iff hpos hden']
  generalize nearest num den = k at hpos hreaches ⊢
  -- Both conditions compare the point half-way below with a quotient; here the points meet.
  have hscale : (2 * k - 1) * den' * den = (2 * k - 1) * den * den' := by ring
  have hnum : 2 * num * den' ≤ 2 * num' * den := by
    rw [mul_assoc, mul_assoc]
    exact Nat.mul_le_mul_left 2 hcross
  obtain hlt | ⟨heven, heq⟩ := hreaches
  · refine .inl (Nat.lt_of_mul_lt_mul_right (a := den) ?_)
    rw [hscale]
    exact (Nat.mul_lt_mul_of_pos_right hlt hden').trans_le hnum
  · have hle : (2 * k - 1) * den' ≤ 2 * num' := by
      refine Nat.le_of_mul_le_mul_right ?_ hden
      rw [hscale, heq]
      exact hnum
    exact hle.lt_or_eq.imp_right fun heq => ⟨heven, heq⟩

theorem nearest_bounds (num : Nat) (hden : 0 < den) :
    2 * (nearest num den * den) ≤ 2 * num + den ∧ 2 * num ≤ 2 * (nearest num den * den) + den := by
  have hdivision := Nat.div_add_mod' num den
  have hmod := Nat.mod_lt num hden
  unfold nearest
  dsimp only
  generalize num / den = q at hdivision ⊢
  generalize num % den = r at hdivision hmod ⊢
  have hnext : (q + 1) * den = q * den + den := Nat.succ_mul q den
  split_ifs <;> omega

/-- The nearest integer is at most one half away. -/
theorem abs_nearest_sub_le (num : Nat) (hden : 0 < den) :
    |(nearest num den : ℚ) - num / den| ≤ 1 / 2 := by
  have hpos : (0 : ℚ) < den := by exact_mod_cast hden
  obtain ⟨hlow, hhigh⟩ := nearest_bounds num hden
  generalize nearest num den = k at hlow hhigh ⊢
  have hlow' : 2 * ((k : ℚ) * den) ≤ 2 * num + den := by exact_mod_cast hlow
  have hhigh' : 2 * (num : ℚ) ≤ 2 * (k * den) + den := by exact_mod_cast hhigh
  have hdiff : (k : ℚ) - num / den = (k * den - num) / den := by
    rw [sub_div, mul_div_cancel_right₀ _ hpos.ne']
  rw [hdiff, abs_div, abs_of_pos hpos, div_le_iff₀ hpos, abs_le]
  constructor <;> linarith

theorem rounded_nonneg (num den : Nat) : 0 ≤ rounded num den :=
  mul_nonneg (Nat.cast_nonneg _) (two_zpow_pos _).le

/-- A quotient is rounded to a number of its exponent, or to the first one of the next. -/
theorem rounded_bounds (hnum : num ≠ 0) (hden : den ≠ 0) :
    rounded num den ≤ 2 ^ 53 * 2 ^ exponentFor num den ∧
      (exponentFor num den = minExp ∨ 2 ^ 52 * 2 ^ exponentFor num den ≤ rounded num den) := by
  obtain ⟨hnearest, hfull⟩ := nearest_scale_bounds hnum hden
  have hpow := (two_zpow_pos (exponentFor num den)).le
  constructor
  · exact mul_le_mul_of_nonneg_right (by exact_mod_cast hnearest) hpow
  · exact hfull.imp_right fun hle => mul_le_mul_of_nonneg_right (by exact_mod_cast hle) hpow

/-- A larger quotient has no smaller exponent. -/
theorem exponentFor_mono (hnum : num ≠ 0) (hden : den ≠ 0) (hnum' : num' ≠ 0) (hden' : den' ≠ 0)
    (h : (num : ℚ) / den ≤ num' / den') : exponentFor num den ≤ exponentFor num' den' := by
  obtain ⟨-, -, hle⟩ := exponentFor_spec hnum hden
  obtain ⟨hmin', hlt', -⟩ := exponentFor_spec hnum' hden'
  by_contra hgt
  have hstep := binade_le (Int.not_le.mp hgt)
  have hlow := hle.resolve_left (by omega)
  linarith

/-- A larger quotient is not rounded to a smaller number. -/
theorem rounded_mono (hden : den ≠ 0) (hden' : den' ≠ 0)
    (h : (num : ℚ) / den ≤ num' / den') : rounded num den ≤ rounded num' den' := by
  have hpos := Nat.pos_of_ne_zero hden
  have hpos' := Nat.pos_of_ne_zero hden'
  rcases Nat.eq_zero_or_pos num with rfl | hnum
  · rw [rounded_zero]
    exact rounded_nonneg num' den'
  have hquotient : (0 : ℚ) < num / den :=
    div_pos (by exact_mod_cast hnum) (by exact_mod_cast hpos)
  have hnum' : num' ≠ 0 := by
    rintro rfl
    rw [Nat.cast_zero, zero_div] at h
    linarith
  rcases (exponentFor_mono hnum.ne' hden hnum' hden' h).lt_or_eq with hlt | heq
  · -- All numbers of the smaller exponent lie below those of the larger one.
    have hmin := (exponentFor_spec hnum.ne' hden).1
    obtain ⟨hhigh, -⟩ := rounded_bounds hnum.ne' hden
    obtain ⟨-, hlow⟩ := rounded_bounds hnum' hden'
    exact hhigh.trans ((binade_le hlt).trans (hlow.resolve_left (by omega)))
  · have hpow := (two_zpow_pos (exponentFor num' den')).le
    unfold rounded
    rw [heq]
    refine mul_le_mul_of_nonneg_right (Nat.cast_le.mpr ?_) hpow
    refine nearest_mono (scale_pos num hpos _) (scale_pos num' hpos' _) ?_
    rw [scale_div, scale_div]
    exact div_le_div_of_nonneg_right h hpow

end DocPull.Binary64
