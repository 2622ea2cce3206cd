import DocPull.Number.Binary64
import Mathlib.Algebra.Order.Floor.Semifield
import Mathlib.Tactic

/-!
# Rounding to binary64

A quotient is rounded to the nearest number of fifty-three bits, at an exponent that its size
decides. Where the rounded number reaches a given bound is told by the quotient: it must reach the
point half-way below the bound, or lie above it when the tie goes to the other side.
-/
namespace DocPull.Binary64

theorem two_zpow_pos (e : Int) : (0 : ℚ) < 2 ^ e := zpow_pos (by norm_num) e

theorem two_zpow_mono {e f : Int} (h : e ≤ f) : (2 : ℚ) ^ e ≤ 2 ^ f :=
  zpow_le_zpow_right₀ (by norm_num) h

/-- The numbers of an exponent end where those of the next one begin. -/
theorem binade_le {e f : Int} (h : e < f) : (2 : ℚ) ^ 53 * 2 ^ e ≤ 2 ^ 52 * 2 ^ f := by
  have hmono := two_zpow_mono (show e + 1 ≤ f by omega)
  rw [zpow_add_one₀ (by norm_num)] at hmono
  linarith

theorem two_zpow_natAbs {e : Int} (h : 0 ≤ e) : (2 : ℚ) ^ e.natAbs = 2 ^ e := by
  rw [← zpow_natCast, Int.natAbs_of_nonneg h]

theorem two_zpow_natAbs_neg {e : Int} (h : e < 0) : (2 : ℚ) ^ e.natAbs = (2 ^ e)⁻¹ := by
  rw [← zpow_neg, ← zpow_natCast, Int.ofNat_natAbs_of_nonpos h.le]

theorem scale_pos (num : Nat) {den : Nat} (h : 0 < den) (e : Int) : 0 < (scale num den e).2 := by
  unfold scale
  split_ifs
  · exact h
  · exact Nat.mul_pos h (Nat.pow_pos (by decide))

/-- Scaling divides by a power of two. -/
theorem scale_div (num den : Nat) (e : Int) :
    ((scale num den e).1 : ℚ) / (scale num den e).2 = num / den / 2 ^ e := by
  unfold scale
  split_ifs with he
  · simp only [Nat.pow_eq, Nat.cast_mul, Nat.cast_pow, Nat.cast_ofNat, two_zpow_natAbs_neg he]
    ring
  · simp only [Nat.pow_eq, Nat.cast_mul, Nat.cast_pow, Nat.cast_ofNat,
      two_zpow_natAbs (not_lt.mp he), div_div]

theorem ratio_pos (m : Nat) (e : Int) : 0 < (ratio m e).2 := by
  unfold ratio
  split_ifs
  · exact Nat.pow_pos (by decide)
  · exact Nat.one_pos

/-- A magnitude as a quotient is the mantissa times the power of two. -/
theorem ratio_div (m : Nat) (e : Int) : ((ratio m e).1 : ℚ) / (ratio m e).2 = m * 2 ^ e := by
  unfold ratio
  split_ifs with he
  · simp only [Nat.pow_eq, Nat.cast_pow, Nat.cast_ofNat, two_zpow_natAbs_neg he, div_inv_eq_mul]
  · simp only [Nat.pow_eq, Nat.cast_mul, Nat.cast_pow, Nat.cast_ofNat, Nat.cast_one, div_one,
      two_zpow_natAbs (not_lt.mp he)]

/-- The nearest integer reaches a bound when the quotient reaches the point half-way below it; a tie
goes up to an even bound only. -/
theorem le_nearest_iff {k n d : Nat} (hk : 0 < k) (hd : 0 < d) :
    k ≤ nearest n d ↔
      (2 * k - 1) * d < 2 * n ∨ k % 2 = 0 ∧ (2 * k - 1) * d = 2 * n := by
  obtain ⟨j, rfl⟩ : ∃ j, k = j + 1 := ⟨k - 1, by omega⟩
  have hn := Nat.div_add_mod n d
  have hr := Nat.mod_lt n hd
  unfold nearest
  dsimp only
  generalize n / d = q at hn ⊢
  generalize n % d = r at hn hr ⊢
  rw [show 2 * (j + 1) - 1 = 2 * j + 1 by omega]
  subst hn
  have hsum : 2 * (d * q + r) = 2 * q * d + 2 * r := by ring
  rw [hsum]
  rcases lt_trichotomy j q with hj | rfl | hj
  · have hmul : (2 * j + 1) * d < 2 * q * d := Nat.mul_lt_mul_of_pos_right (by omega) hd
    refine iff_of_true ?_ (.inl (by omega))
    split_ifs <;> omega
  · rw [add_mul, one_mul]
    split_ifs <;> omega
  · have hmul : (2 * q + 3) * d ≤ (2 * j + 1) * d := Nat.mul_le_mul_right d (by omega)
    rw [add_mul] at hmul
    refine iff_of_false ?_ (by omega)
    split_ifs <;> omega

/-- A whole quotient is its own nearest integer. -/
theorem nearest_mul (k : Nat) {d : Nat} (hd : 0 < d) : nearest (k * d) d = k := by
  simp [nearest, Nat.mul_div_cancel k hd, hd]

theorem natCast_log2_le {n : Nat} (h : n ≠ 0) : (2 : ℚ) ^ (n.log2 : Int) ≤ n := by
  rw [zpow_natCast]
  exact_mod_cast Nat.log2_self_le h

theorem natCast_lt_log2 (n : Nat) : (n : ℚ) < 2 ^ ((n.log2 : Int) + 1) := by
  have h : n < 2 ^ (n.log2 + 1) := Nat.lt_log2_self
  have hcast : ((n.log2 : Int) + 1) = ((n.log2 + 1 : Nat) : Int) := by push_cast; rfl
  rw [hcast, zpow_natCast]
  exact_mod_cast h

/-- Two to the difference of the logarithms is right within a factor of two. -/
theorem div_between {num den : Nat} (hnum : num ≠ 0) (hden : den ≠ 0) :
    (2 : ℚ) ^ ((num.log2 : Int) - den.log2 - 1) < num / den ∧
      (num : ℚ) / den < 2 ^ ((num.log2 : Int) - den.log2 + 1) := by
  have hdenpos : (0 : ℚ) < den := by exact_mod_cast Nat.pos_of_ne_zero hden
  constructor
  · rw [lt_div_iff₀ hdenpos]
    calc (2 : ℚ) ^ ((num.log2 : Int) - den.log2 - 1) * den
        < 2 ^ ((num.log2 : Int) - den.log2 - 1) * 2 ^ ((den.log2 : Int) + 1) :=
          mul_lt_mul_of_pos_left (natCast_lt_log2 den) (two_zpow_pos _)
      _ = 2 ^ (num.log2 : Int) := by
          rw [← zpow_add₀ (by norm_num)]
          congr 1
          ring
      _ ≤ num := natCast_log2_le hnum
  · rw [div_lt_iff₀ hdenpos]
    calc (num : ℚ) < 2 ^ ((num.log2 : Int) + 1) := natCast_lt_log2 num
      _ = 2 ^ ((num.log2 : Int) - den.log2 + 1) * 2 ^ (den.log2 : Int) := by
          rw [← zpow_add₀ (by norm_num)]
          congr 1
          ring
      _ ≤ 2 ^ ((num.log2 : Int) - den.log2 + 1) * den :=
          mul_le_mul_of_nonneg_left (natCast_log2_le hden) (two_zpow_pos _).le

/-- The exponent leaves fifty-three bits before the point, the first of them set unless the quotient
is too small for that. -/
theorem exponentFor_spec {num den : Nat} (hnum : num ≠ 0) (hden : den ≠ 0) :
    minExp ≤ exponentFor num den ∧
      (num : ℚ) / den < 2 ^ 53 * 2 ^ exponentFor num den ∧
      (exponentFor num den = minExp ∨ 2 ^ 52 * 2 ^ exponentFor num den ≤ (num : ℚ) / den) := by
  obtain ⟨hlow, hhigh⟩ := div_between hnum hden
  unfold exponentFor
  dsimp only
  generalize hg : (num.log2 : Int) - den.log2 - 52 = g
  have hpos := scale_pos num (Nat.pos_of_ne_zero hden) g
  have hdiv := scale_div num den g
  generalize scale num den g = nd at hpos hdiv ⊢
  obtain ⟨n, d⟩ := nd
  dsimp only at hpos hdiv ⊢
  have hcut : n / d < 0x10000000000000 ↔ (num : ℚ) / den < 2 ^ 52 * 2 ^ g := by
    rw [Nat.div_lt_iff_lt_mul hpos, ← div_lt_iff₀ (two_zpow_pos g), ← hdiv,
      div_lt_iff₀ (by exact_mod_cast hpos)]
    norm_cast
  have hexact : ∀ e : Int, (num : ℚ) / den < 2 ^ 53 * 2 ^ e → 2 ^ 52 * 2 ^ e ≤ (num : ℚ) / den →
      minExp ≤ max e minExp ∧ (num : ℚ) / den < 2 ^ 53 * 2 ^ max e minExp ∧
        (max e minExp = minExp ∨ 2 ^ 52 * 2 ^ max e minExp ≤ (num : ℚ) / den) := by
    intro e hlt hle
    refine ⟨le_max_right _ _, ?_, ?_⟩
    · exact hlt.trans_le (mul_le_mul_of_nonneg_left (two_zpow_mono (le_max_left _ _)) (by norm_num))
    · rcases le_total e minExp with he | he
      · exact .inl (max_eq_right he)
      · rw [max_eq_left he]
        exact .inr hle
  split_ifs with hsmall
  · refine hexact (g - 1) ?_ ?_
    · have hlt := hcut.mp hsmall
      rw [zpow_sub_one₀ (by norm_num)]
      linarith
    · have heq : (2 : ℚ) ^ 52 * 2 ^ (g - 1) = 2 ^ ((num.log2 : Int) - den.log2 - 1) := by
        rw [← hg, ← zpow_natCast, ← zpow_add₀ (by norm_num)]
        congr 1
        push_cast
        ring
      rw [heq]
      exact hlow.le
  · refine hexact g ?_ ?_
    · have heq : (2 : ℚ) ^ 53 * 2 ^ g = 2 ^ ((num.log2 : Int) - den.log2 + 1) := by
        rw [← hg, ← zpow_natCast, ← zpow_add₀ (by norm_num)]
        congr 1
        push_cast
        ring
      rw [heq]
      exact hhigh
    · exact not_lt.mp (mt hcut.mpr hsmall)

/-- The point half-way between a mantissa and the one before it, at an exponent. -/
def halfBelow (m : Nat) (e : Int) : ℚ := (m - 1 / 2) * 2 ^ e

/-- A number rounds up to a mantissa or beyond: it lies above the point half-way below the mantissa,
or on it when the mantissa is even. -/
def Reaches (m : Nat) (e : Int) (q : ℚ) : Prop :=
  halfBelow m e < q ∨ m % 2 = 0 ∧ halfBelow m e = q

theorem le_nearest_scale_iff (num : Nat) {den k : Nat} (hden : 0 < den) (hk : 0 < k) (e : Int) :
    k ≤ nearest (scale num den e).1 (scale num den e).2 ↔ Reaches k e (num / den) := by
  have hpos := scale_pos num hden e
  have hdiv := scale_div num den e
  generalize scale num den e = nd at hpos hdiv ⊢
  obtain ⟨n, d⟩ := nd
  dsimp only at hpos hdiv ⊢
  have hd : (0 : ℚ) < d := by exact_mod_cast hpos
  have hq : (num : ℚ) / den = n / d * 2 ^ e := by
    rw [hdiv, div_mul_cancel₀ _ (two_zpow_pos e).ne']
  have htwice : (((2 * k - 1) * d : Nat) : ℚ) = 2 * ((k - 1 / 2) * d) := by
    rw [Nat.cast_mul, Nat.cast_sub (by omega)]
    push_cast
    ring
  have hlt : (2 * k - 1) * d < 2 * n ↔ (k - 1 / 2 : ℚ) < n / d := by
    rw [lt_div_iff₀ hd, ← Nat.cast_lt (α := ℚ), htwice]
    push_cast
    constructor <;> intro h <;> linarith
  have heq : (2 * k - 1) * d = 2 * n ↔ (k - 1 / 2 : ℚ) = n / d := by
    rw [eq_div_iff hd.ne', ← Nat.cast_inj (R := ℚ), htwice]
    push_cast
    constructor <;> intro h <;> linarith
  rw [le_nearest_iff hk hpos, hlt, heq, Reaches, halfBelow, hq,
    mul_lt_mul_iff_left₀ (two_zpow_pos e), mul_left_inj' (two_zpow_pos e).ne']

/-- The number that a quotient is rounded to, if no exponent is too large. -/
def rounded (num den : Nat) : ℚ :=
  nearest (scale num den (exponentFor num den)).1 (scale num den (exponentFor num den)).2 *
    2 ^ exponentFor num den

/-- The rounded mantissa has fifty-three bits, or is the next power of two. -/
theorem nearest_scale_bounds {num den : Nat} (hnum : num ≠ 0) (hden : den ≠ 0) :
    nearest (scale num den (exponentFor num den)).1 (scale num den (exponentFor num den)).2 ≤
        2 ^ 53 ∧
      (exponentFor num den = minExp ∨ 2 ^ 52 ≤ nearest (scale num den (exponentFor num den)).1
        (scale num den (exponentFor num den)).2) := by
  obtain ⟨-, hlt, hle⟩ := exponentFor_spec hnum hden
  have hpos := Nat.pos_of_ne_zero hden
  have hpow := two_zpow_pos (exponentFor num den)
  constructor
  · rw [← not_lt, Nat.lt_iff_add_one_le, le_nearest_scale_iff num hpos (by decide)]
    rintro (h | ⟨-, h⟩) <;> rw [halfBelow] at h <;> push_cast at h <;> linarith
  · refine hle.imp_right fun hle => ?_
    rw [le_nearest_scale_iff num hpos (by decide)]
    refine .inl (lt_of_lt_of_le ?_ hle)
    rw [halfBelow]
    push_cast
    linarith

theorem rounded_zero (den : Nat) : rounded 0 den = 0 := by
  have hzero : ∀ e d, nearest (scale 0 d e).1 (scale 0 d e).2 = 0 := by
    intro e d
    unfold scale nearest
    split_ifs <;> simp_all
  rw [rounded, hzero, Nat.cast_zero, zero_mul]

/-- A bound of fifty-three bits splits quotients in two: those that are rounded to the bound or
beyond, and those that are rounded to the number before it or less. -/
theorem rounded_cases (num : Nat) {den m : Nat} {e : Int} (hden : den ≠ 0) (hm : 2 ^ 52 < m)
    (hm' : m ≤ 2 ^ 53) (he : minExp ≤ e) :
    Reaches m e (num / den) ∧ (m : ℚ) * 2 ^ e ≤ rounded num den ∨
      ¬Reaches m e (num / den) ∧ rounded num den ≤ (m - 1) * 2 ^ e := by
  have hlow : (2 : ℚ) ^ 52 + 1 ≤ m := by exact_mod_cast hm
  have hhigh : (m : ℚ) ≤ 2 ^ 53 := by exact_mod_cast hm'
  have hpow := two_zpow_pos e
  -- Below half a bound nothing is rounded up to it.
  have hbelow : (num : ℚ) / den ≤ (m - 1) * 2 ^ e → ¬Reaches m e (num / den) := by
    rintro hle (h | ⟨-, h⟩) <;> rw [halfBelow] at h <;> linarith
  by_cases hnum : num = 0
  · subst hnum
    have hle : (0 : ℚ) ≤ (m - 1) * 2 ^ e := mul_nonneg (by linarith) hpow.le
    rw [rounded_zero]
    exact .inr ⟨hbelow (by simpa using hle), hle⟩
  obtain ⟨hmin, hlt, hle⟩ := exponentFor_spec hnum hden
  obtain ⟨hnearest, hfull⟩ := nearest_scale_bounds hnum hden
  have hreaches := fun (k : Nat) (hk : 0 < k) =>
    le_nearest_scale_iff num (Nat.pos_of_ne_zero hden) hk (exponentFor num den)
  unfold rounded
  generalize nearest (scale num den (exponentFor num den)).1
    (scale num den (exponentFor num den)).2 = k at hnearest hfull hreaches ⊢
  generalize exponentFor num den = f at hmin hlt hle hfull hreaches ⊢
  have hk : (k : ℚ) ≤ 2 ^ 53 := by exact_mod_cast hnearest
  have hpowf := two_zpow_pos f
  rcases lt_trichotomy f e with hfe | rfl | hef
  · -- All numbers of a smaller exponent lie below the bound.
    have hstep : (2 : ℚ) ^ 53 * 2 ^ f ≤ (m - 1) * 2 ^ e :=
      (binade_le hfe).trans (mul_le_mul_of_nonneg_right (by linarith) hpow.le)
    refine .inr ⟨hbelow (hlt.le.trans hstep), le_trans ?_ hstep⟩
    exact mul_le_mul_of_nonneg_right hk hpowf.le
  · by_cases hmk : m ≤ k
    · refine .inl ⟨(hreaches m (by omega)).mp hmk, ?_⟩
      exact mul_le_mul_of_nonneg_right (by exact_mod_cast hmk) hpowf.le
    · refine .inr ⟨mt (hreaches m (by omega)).mpr hmk, ?_⟩
      refine mul_le_mul_of_nonneg_right ?_ hpowf.le
      rw [le_sub_iff_add_le]
      exact_mod_cast Nat.lt_of_not_le hmk
  · -- All numbers of a larger exponent have all their bits and lie beyond it.
    have hstep : (m : ℚ) * 2 ^ e ≤ 2 ^ 52 * 2 ^ f :=
      (mul_le_mul_of_nonneg_right hhigh hpow.le).trans (binade_le hef)
    have hne : f ≠ minExp := by omega
    have hfull' : (2 : ℚ) ^ 52 ≤ k := by exact_mod_cast hfull.resolve_left hne
    refine .inl ⟨.inl ?_, hstep.trans (mul_le_mul_of_nonneg_right hfull' hpowf.le)⟩
    refine lt_of_lt_of_le ?_ (hstep.trans (hle.resolve_left hne))
    rw [halfBelow]
    linarith

/-- A quotient is rounded to a bound or beyond exactly when it reaches the point half-way below. -/
theorem le_rounded_iff {num den m : Nat} {e : Int} (hden : den ≠ 0) (hm : 2 ^ 52 < m)
    (hm' : m ≤ 2 ^ 53) (he : minExp ≤ e) :
    (m : ℚ) * 2 ^ e ≤ rounded num den ↔ Reaches m e (num / den) := by
  have hpow := two_zpow_pos e
  obtain ⟨hr, hle⟩ | ⟨hr, hle⟩ := rounded_cases num hden hm hm' he
  · exact iff_of_true hle hr
  · exact iff_of_false (by linarith) hr

/-- Between neighbouring numbers of fifty-three bits there is no rounded one. -/
theorem le_rounded_iff_of_between {num den m : Nat} {e : Int} {t : ℚ} (hden : den ≠ 0)
    (hm : 2 ^ 52 < m) (hm' : m ≤ 2 ^ 53) (he : minExp ≤ e) (hlow : (m - 1) * 2 ^ e < t)
    (hhigh : t ≤ m * 2 ^ e) : t ≤ rounded num den ↔ Reaches m e (num / den) := by
  obtain ⟨hr, hle⟩ | ⟨hr, hle⟩ := rounded_cases num hden hm hm' he
  · exact iff_of_true (hhigh.trans hle) hr
  · exact iff_of_false (hle.trans_lt hlow).not_ge hr

theorem reaches_even {m : Nat} {e : Int} {q : ℚ} (hm : m % 2 = 0) :
    Reaches m e q ↔ halfBelow m e ≤ q := by
  rw [Reaches, le_iff_lt_or_eq, and_iff_right hm]

theorem reaches_odd {m : Nat} {e : Int} {q : ℚ} (hm : m % 2 = 1) :
    Reaches m e q ↔ halfBelow m e < q := by
  rw [Reaches, or_iff_left]
  rintro ⟨heven, -⟩
  omega

/-- From here on a quotient is too large for any finite number. -/
theorem rounded_large_iff (num : Nat) {den : Nat} (hden : den ≠ 0) :
    2 ^ 1024 ≤ rounded num den ↔ 2 ^ 1024 - 2 ^ 970 ≤ (num : ℚ) / den := by
  have hbound : ((2 ^ 53 : Nat) : ℚ) * 2 ^ (971 : Int) = 2 ^ 1024 := by
    rw [show (971 : Int) = (971 : Nat) from rfl, zpow_natCast, Nat.cast_pow, Nat.cast_ofNat,
      ← pow_add]
  have hhalf : halfBelow (2 ^ 53) 971 = 2 ^ 1024 - 2 ^ 970 := by
    rw [halfBelow, sub_mul, hbound, show (971 : Int) = (970 : Nat) + 1 from rfl,
      zpow_add_one₀ (by norm_num), zpow_natCast, mul_comm, mul_assoc,
      mul_one_div_cancel (by norm_num), mul_one]
  rw [← hhalf, ← hbound, le_rounded_iff hden (by decide) (by decide) (by decide),
    reaches_even (by decide)]

/-- A whole number of at most fifty-three bits is not changed. -/
theorem rounded_natCast {num den k : Nat} (hden : den ≠ 0) (h : (num : ℚ) / den = k)
    (hk : k < 2 ^ 53) : rounded num den = k := by
  by_cases hnum : num = 0
  · subst hnum
    rw [rounded_zero, ← h, Nat.cast_zero, zero_div]
  obtain ⟨-, -, hle⟩ := exponentFor_spec hnum hden
  rw [h] at hle
  have hexp : exponentFor num den ≤ 0 := by
    obtain hmin | hle := hle
    · rw [hmin]
      decide
    · by_contra hpos
      have hmono := two_zpow_mono (show 1 ≤ exponentFor num den by omega)
      have hlt : (k : ℚ) < 2 ^ 53 := by exact_mod_cast hk
      rw [zpow_one] at hmono
      linarith
  have hpos := scale_pos num (Nat.pos_of_ne_zero hden) (exponentFor num den)
  have hdiv := scale_div num den (exponentFor num den)
  unfold rounded
  generalize exponentFor num den = e at hexp hpos hdiv ⊢
  generalize scale num den e = nd at hpos hdiv ⊢
  obtain ⟨n, d⟩ := nd
  dsimp only at hpos hdiv ⊢
  obtain ⟨j, rfl⟩ : ∃ j : Nat, e = -j := ⟨e.natAbs, by omega⟩
  have hn : n = k * 2 ^ j * d := by
    rw [h, div_eq_iff (by exact_mod_cast hpos.ne'), zpow_neg, zpow_natCast, div_inv_eq_mul] at hdiv
    exact_mod_cast hdiv
  rw [hn, nearest_mul _ hpos, Nat.cast_mul, zpow_neg, zpow_natCast, Nat.cast_pow, Nat.cast_ofNat,
    mul_inv_cancel_right₀ (by positivity)]

/-- A quotient becomes infinite when it is rounded to two to the 1024th or beyond, and else the
number it is rounded to. -/
theorem ofRatio_cases (negative : Bool) (num : Nat) {den : Nat} (hden : den ≠ 0) :
    ofRatio negative num den = infinite negative ∧ 2 ^ 1024 ≤ rounded num den ∨
      ∃ m e, ofRatio negative num den = finite negative m e ∧ (m : ℚ) * 2 ^ e = rounded num den ∧
        rounded num den < 2 ^ 1024 := by
  by_cases hnum : num = 0
  · subst hnum
    refine .inr ⟨0, minExp, rfl, ?_, ?_⟩ <;> rw [rounded_zero] <;> simp
  obtain ⟨hnearest, hfull⟩ := nearest_scale_bounds hnum hden
  have hmin := (exponentFor_spec hnum hden).1
  unfold ofRatio rounded
  rw [if_neg hnum]
  dsimp only
  generalize nearest (scale num den (exponentFor num den)).1
    (scale num den (exponentFor num den)).2 = k at hnearest hfull ⊢
  generalize exponentFor num den = f at hmin hfull ⊢
  -- The mantissa that is stored, with its exponent.
  obtain ⟨m, e, hstored, hvalue, hm, hbits⟩ : ∃ (m : Nat) (e : Int),
      (if k = 0x20000000000000 then (0x10000000000000, f + 1) else (k, f)) = (m, e) ∧
        (m : ℚ) * 2 ^ e = k * 2 ^ f ∧ m < 2 ^ 53 ∧ (e = minExp ∨ 2 ^ 52 ≤ m) := by
    split_ifs with hk
    · refine ⟨_, _, rfl, ?_, by decide, .inr (by decide)⟩
      rw [hk, zpow_add_one₀ (by norm_num)]
      push_cast
      ring
    · exact ⟨k, f, rfl, rfl, by omega, hfull⟩
  rw [hstored, ← hvalue]
  dsimp only
  have hpow := two_zpow_pos e
  split_ifs with hlarge
  · have hbits' : (2 : ℚ) ^ 52 ≤ m := by
      have hne : e ≠ minExp := fun h => absurd (h ▸ hlarge) (by decide)
      exact_mod_cast hbits.resolve_left hne
    have hmono := two_zpow_mono (show 972 ≤ e from hlarge)
    refine .inl ⟨rfl, ?_⟩
    calc (2 : ℚ) ^ 1024 = 2 ^ 52 * 2 ^ (972 : Int) := by
          rw [show (972 : Int) = (972 : Nat) from rfl, zpow_natCast, ← pow_add]
      _ ≤ (m : ℚ) * 2 ^ e := mul_le_mul hbits' hmono (two_zpow_pos _).le (Nat.cast_nonneg _)
  · have hmono := two_zpow_mono (show e ≤ 971 from not_lt.mp hlarge)
    have hm' : (m : ℚ) < 2 ^ 53 := by exact_mod_cast hm
    refine .inr ⟨m, e, rfl, rfl, ?_⟩
    calc (m : ℚ) * 2 ^ e < 2 ^ 53 * 2 ^ e := mul_lt_mul_of_pos_right hm' hpow
      _ ≤ 2 ^ 53 * 2 ^ (971 : Int) := mul_le_mul_of_nonneg_left hmono (by norm_num)
      _ = 2 ^ 1024 := by
          rw [show (971 : Int) = (971 : Nat) from rfl, zpow_natCast, ← pow_add]

/-- A small number is below zero when it has a minus sign and is not zero. -/
theorem isNegative_finite {negative : Bool} {m : Nat} {e : Int} :
    (finite negative m e).isNegative = true ↔ negative = true ∧ m ≠ 0 := by
  have hpow : 0 < 2 ^ (e - min e (-1074)).toNat := Nat.two_pow_pos _
  simp only [isNegative, less, zero, Nat.pow_eq, zero_mul, Nat.cast_zero, Bool.false_eq_true,
    if_false, decide_eq_true_eq]
  cases negative with
  | false =>
    refine iff_of_false ?_ (by simp)
    simp only [Bool.false_eq_true, if_false]
    omega
  | true =>
    simp only [if_true, true_and, Left.neg_neg_iff, Nat.cast_pos, Nat.mul_pos_iff_of_pos_right hpow]
    exact Nat.pos_iff_ne_zero

/-- What is cut to an integer keeps its whole part while that fits. -/
theorem truncate_finite (m : Nat) (e : Int) :
    (finite false m e).truncate =
      if (m : ℚ) * 2 ^ e < 2 ^ 63 then (⌊(m : ℚ) * 2 ^ e⌋₊ : Int) else minInt := by
  have hfloor : (ratio m e).1 / (ratio m e).2 = ⌊(m : ℚ) * 2 ^ e⌋₊ := by
    rw [← ratio_div, Nat.floor_div_eq_div]
  have hfits : (m : ℚ) * 2 ^ e < 2 ^ 63 ↔ ⌊(m : ℚ) * 2 ^ e⌋₊ < 2 ^ 63 := by
    rw [Nat.floor_lt' (by decide)]
    push_cast
    rfl
  simp only [truncate, hfloor, hfits, minInt, Bool.false_eq_true, if_false]
  generalize ⌊(m : ℚ) * 2 ^ e⌋₊ = n
  split_ifs <;> omega

theorem truncate_ofRatio {num den : Nat} (hden : den ≠ 0) :
    (ofRatio false num den).truncate =
      if rounded num den < 2 ^ 63 then (⌊rounded num den⌋₊ : Int) else minInt := by
  obtain ⟨hr, hlarge⟩ | ⟨m, e, hr, hvalue, -⟩ := ofRatio_cases false num hden
  · have hle : (2 : ℚ) ^ 63 ≤ 2 ^ 1024 := pow_le_pow_right₀ (by norm_num) (by decide)
    rw [hr, if_neg (not_lt.mpr (hle.trans hlarge))]
    rfl
  · rw [hr, truncate_finite, hvalue]

/-- A zero of either sign is cut to zero. -/
theorem truncate_ofRatio_zero (negative : Bool) (den : Nat) :
    (ofRatio negative 0 den).truncate = 0 := by
  have hratio : (ratio 0 minExp).1 = 0 := by
    unfold ratio
    split_ifs
    · rfl
    · exact Nat.zero_mul _
  rw [ofRatio, if_pos rfl]
  simp only [truncate, hratio, Nat.zero_div]
  cases negative <;> rfl

/-- A whole number of 64 bits is stored rounded. -/
theorem ofInt_rounded {k : Nat} (hk : k < 2 ^ 63) :
    ∃ m e, ofInt k = finite false m e ∧ (m : ℚ) * 2 ^ e = rounded k 1 := by
  have hof : ofInt k = ofRatio false k 1 := by
    rw [ofInt, Int.natAbs_natCast, decide_eq_false (by omega)]
  obtain ⟨-, hlarge⟩ | ⟨m, e, hr, hvalue, -⟩ := ofRatio_cases false k one_ne_zero
  · rw [rounded_large_iff k one_ne_zero, Nat.cast_one, div_one] at hlarge
    have hk' : (k : ℚ) < 2 ^ 63 := by exact_mod_cast hk
    have hsplit : (2 : ℚ) ^ 1024 = 2 ^ 54 * 2 ^ 970 := by rw [← pow_add]
    have hle : (2 : ℚ) ^ 63 ≤ 2 ^ 970 := pow_le_pow_right₀ (by norm_num) (by decide)
    rw [hsplit] at hlarge
    generalize (2 : ℚ) ^ 970 = x at hlarge hle
    linarith
  · exact ⟨m, e, hof.trans hr, hvalue⟩

/-- A small whole number is stored as it is. -/
theorem ofInt_natCast {k : Nat} (hk : k < 2 ^ 53) :
    ∃ m e, ofInt k = finite false m e ∧ (m : ℚ) * 2 ^ e = k := by
  obtain ⟨m, e, hr, hvalue⟩ := ofInt_rounded (hk.trans (by decide))
  exact ⟨m, e, hr, hvalue.trans (rounded_natCast one_ne_zero (by simp) hk)⟩

/-- The product with a small whole number is the exact product, rounded. -/
theorem mul_ofInt (negative : Bool) (m : Nat) (e : Int) {k : Nat} (hk : k < 2 ^ 53) :
    ∃ num den : Nat, den ≠ 0 ∧ (num : ℚ) / den = m * 2 ^ e * k ∧
      mul (finite negative m e) (ofInt k) = ofRatio negative num den := by
  obtain ⟨n, f, hn, hvalue⟩ := ofInt_natCast hk
  refine ⟨(ratio (m * n) (e + f)).1, (ratio (m * n) (e + f)).2, (ratio_pos _ _).ne', ?_, ?_⟩
  · rw [ratio_div, ← hvalue, zpow_add₀ (by norm_num)]
    push_cast
    ring
  · rw [hn, mul, Bool.bne_false]

end DocPull.Binary64
