import DocPull.Proofs.Number.Monotone
import DocPull.Proofs.Number.Quotient
import DocPull.Size

/-!
# Sizes as people read them

A size is shown as a numeral and the name of a unit, and stands for their product. Within one unit a
larger size has no smaller numeral, because rounding keeps the order; a size that is a whole number
of a unit is shown as it is in this unit and in all smaller ones, so nothing below a larger unit is
shown as more than this unit, and nothing from there on as less.
-/
namespace DocPull.Size

open Bytes Numeral Binary64

/-- A number of units. -/
structure Shown where
  number : ℚ
  unit : Nat

/-- The number of bytes that a number of units stands for. -/
def Shown.quantity (a : Shown) : ℚ := a.number * a.unit

/-- The names of the units that sizes are shown in. -/
def shownUnits : List (String × Nat) :=
  [("B", 1), ("KB", 2 ^ 10), ("MB", 2 ^ 20), ("GB", 2 ^ 30)]

/-- What a text shows: the exact value of the numeral before its first space, in the unit that is
named after it. -/
def shown? (s : Bytes) : Option Shown := do
  let (numeral, name) ← cut (byte ' ') s
  let (_, unit) ← shownUnits.find? fun (n, _) => utf8 n == name
  let (negative, num, den) ← quotient? numeral
  pure ⟨signedQuotient negative num den, unit⟩

theorem shown?_append {numeral : Bytes} {name : String} {num den unit : Nat}
    (hspace : byte ' ' ∉ numeral) (hname : (name, unit) ∈ shownUnits)
    (h : quotient? numeral = some (false, num, den)) :
    shown? (numeral ++ byte ' ' :: utf8 name) = some ⟨num / den, unit⟩ := by
  have hfind : ∀ p ∈ shownUnits, shownUnits.find? (fun q => utf8 q.1 == utf8 p.1) = some p := by
    decide
  simp only [shown?, cut_append _ hspace, Option.bind_eq_bind, Option.bind_some,
    hfind _ hname, h]
  rfl

/-- A numeral with one digit after the point has ten times its value as an integer. -/
theorem quotient?_oneDecimal (num den : Nat) :
    quotient? (oneDecimal num den) = some (false, nearest (10 * num) den, 10) := by
  unfold oneDecimal
  dsimp only
  generalize nearest (10 * num) den = t
  have ht : t % 10 < 10 := Nat.mod_lt t (by decide)
  have hlast : decimal (t % 10) = [(0x30 + t % 10).toUInt8] := by rw [decimal, if_pos ht]
  rw [quotient?_of_point (isDigits_decimal _) (isDigits_decimal _), valueFrom_decimal, hlast,
    valueFrom_cons, valueFrom_nil, toNat_digit ht, Nat.add_sub_cancel_left, Nat.div_add_mod]
  rfl

theorem not_mem_oneDecimal (num den : Nat) : byte ' ' ∉ oneDecimal num den := by
  have hdecimal : ∀ n, byte ' ' ∉ decimal n := fun n => not_mem_decimal (by decide)
  simp only [oneDecimal, List.mem_append, List.mem_cons, hdecimal, false_or, or_false]
  decide

/-- The tenths of a unit that a size is shown as. -/
def tenths (k unit : Nat) : Nat := nearest (10 * (displayed k unit).1) (displayed k unit).2

/-- A size in tenths of a unit. -/
def inTenths (k unit : Nat) : Shown := ⟨(tenths k unit : ℚ) / 10, unit⟩

section InTenths

variable {j k unit : Nat}

theorem displayed_spec (hk : k < 2 ^ 63) (hunit : 0 < unit) :
    0 < (displayed k unit).2 ∧
      ((displayed k unit).1 : ℚ) / (displayed k unit).2 = rounded k 1 / unit := by
  obtain ⟨m, e, hfinite, hvalue⟩ := ofInt_rounded hk
  simp only [displayed, hfinite]
  refine ⟨Nat.mul_pos (ratio_pos m e) hunit, ?_⟩
  rw [Nat.cast_mul, ← div_div, ratio_div, hvalue]

/-- Ten times the quotient, as it is rounded to tenths. -/
theorem displayed_tenfold (hk : k < 2 ^ 63) (hunit : 0 < unit) :
    ((10 * (displayed k unit).1 : Nat) : ℚ) / (displayed k unit).2 = 10 * (rounded k 1 / unit) := by
  rw [Nat.cast_mul, mul_div_assoc, (displayed_spec hk hunit).2]
  rfl

/-- In one unit a larger size is not shown as a smaller number. -/
theorem quantity_mono (hjk : j ≤ k) (hk : k < 2 ^ 63) (hunit : 0 < unit) :
    (inTenths j unit).quantity ≤ (inTenths k unit).quantity := by
  have hj := hjk.trans_lt hk
  have hrounded : rounded j 1 ≤ rounded k 1 :=
    rounded_mono one_ne_zero one_ne_zero (by simpa using hjk)
  have htenths : tenths j unit ≤ tenths k unit := by
    refine nearest_mono (displayed_spec hj hunit).1 (displayed_spec hk hunit).1 ?_
    rw [displayed_tenfold hj hunit, displayed_tenfold hk hunit]
    exact mul_le_mul_of_nonneg_left (div_le_div_of_nonneg_right hrounded (Nat.cast_nonneg _))
      (by norm_num)
  have hcast : (tenths j unit : ℚ) ≤ tenths k unit := by exact_mod_cast htenths
  exact mul_le_mul_of_nonneg_right (div_le_div_of_nonneg_right hcast (by norm_num))
    (Nat.cast_nonneg _)

theorem tenths_mul (hk : k * unit < 2 ^ 53) (hunit : 0 < unit) :
    tenths (k * unit) unit = 10 * k := by
  have hk' : k * unit < 2 ^ 63 := hk.trans (by decide)
  have hpos : (0 : ℚ) < unit := by exact_mod_cast hunit
  obtain ⟨hden, -⟩ := displayed_spec hk' hunit
  have hwhole : ((k * unit : Nat) : ℚ) / unit = k := by
    rw [Nat.cast_mul, mul_div_cancel_right₀ _ hpos.ne']
  have hquotient := displayed_tenfold hk' hunit
  rw [rounded_natCast one_ne_zero (by simp) hk, hwhole,
    div_eq_iff (by exact_mod_cast hden.ne')] at hquotient
  have hnum : 10 * (displayed (k * unit : Nat) unit).1 =
      10 * k * (displayed (k * unit : Nat) unit).2 := by exact_mod_cast hquotient
  rw [tenths, hnum, nearest_mul _ hden]

/-- A small size that is a whole number of units is shown as it is. -/
theorem quantity_mul (hk : k * unit < 2 ^ 53) (hunit : 0 < unit) :
    (inTenths (k * unit) unit).quantity = (k * unit : Nat) := by
  rw [Shown.quantity, inTenths, tenths_mul hk hunit]
  push_cast
  ring

/-- A small size is shown with an error of at most half a tenth of the unit. -/
theorem abs_quantity_sub_le (hk : k < 2 ^ 53) (hunit : 0 < unit) :
    |(inTenths k unit).quantity - k| ≤ (unit : ℚ) / 20 := by
  have hk' : k < 2 ^ 63 := hk.trans (by decide)
  have hpos : (0 : ℚ) < unit := by exact_mod_cast hunit
  have hnearest := abs_nearest_sub_le (10 * (displayed k unit).1) (displayed_spec hk' hunit).1
  rw [displayed_tenfold hk' hunit, rounded_natCast one_ne_zero (by simp) hk] at hnearest
  have hsplit : (inTenths k unit).quantity - k =
      (tenths k unit - 10 * (k / unit : ℚ)) * (unit / 10) := by
    rw [Shown.quantity, inTenths]
    field_simp
  rw [hsplit, abs_mul, abs_of_pos (by positivity : (0 : ℚ) < unit / 10)]
  calc |(tenths k unit : ℚ) - 10 * (k / unit)| * (unit / 10)
      ≤ 1 / 2 * (unit / 10) := mul_le_mul_of_nonneg_right hnearest (by positivity)
    _ = unit / 20 := by ring

end InTenths

/-- The unit that a size is shown in. -/
def unitOf (k : Nat) : Nat := ((displayUnit? k).map Prod.fst).getD 1

/-- A size is shown in the largest unit that it reaches, and else in bytes. -/
theorem unitOf_spec (k : Nat) :
    ∃ e ∈ [0, 10, 20, 30], unitOf k = 2 ^ e ∧ (e = 0 ∨ 2 ^ e ≤ k) ∧
      ∀ f ∈ [0, 10, 20, 30], e < f → k < 2 ^ f := by
  have hunit : unitOf k = if 2 ^ 30 ≤ k then 2 ^ 30 else if 2 ^ 20 ≤ k then 2 ^ 20 else
      if 2 ^ 10 ≤ k then 2 ^ 10 else 1 := by
    have hcast : ∀ u : Nat, ((u : Int) ≤ k) = (u ≤ k) := fun u => propext Int.ofNat_le
    simp only [unitOf, displayUnit?, displayUnits, List.find?_cons, List.find?_nil, hcast]
    norm_num only
    split_ifs with hGB hMB hKB <;> simp [*]
  rw [hunit]
  split_ifs with hGB hMB hKB
  · exact ⟨30, by simp, rfl, .inr hGB, by simp⟩
  · exact ⟨20, by simp, rfl, .inr hMB, by simpa using hGB⟩
  · exact ⟨10, by simp, rfl, .inr hKB, by simp; omega⟩
  · exact ⟨0, by simp, rfl, .inl rfl, by simp; omega⟩

theorem unitOf_pos (k : Nat) : 0 < unitOf k := by
  obtain ⟨e, -, hunit, -⟩ := unitOf_spec k
  rw [hunit]
  exact Nat.two_pow_pos e

/-- What is shown of a size is its number of tenths of its unit. -/
theorem shown?_format {k : Nat} (hk : k < 2 ^ 63) :
    shown? (format k) = some (inTenths k (unitOf k)) := by
  have hunits : ∀ p ∈ displayUnits, (p.2, p.1) ∈ shownUnits := by decide
  unfold format unitOf
  cases hunit : displayUnit? k with
  | some p =>
    obtain ⟨unit, name⟩ := p
    have hname : (name, unit) ∈ shownUnits := hunits _ (List.mem_of_find?_eq_some hunit)
    have hshown := shown?_append (not_mem_oneDecimal (displayed k unit).1 (displayed k unit).2)
      hname (quotient?_oneDecimal _ _)
    have hspace : utf8 " " = [byte ' '] := rfl
    simp only [text_cons, text_nil, hspace, List.append_nil, List.singleton_append]
    exact hshown
  | none =>
    have hsmall : k < 1024 := by
      have hKB := List.find?_eq_none.mp hunit (1024, "KB") (by decide)
      simpa using hKB
    have htenths : tenths (k * 1) 1 = 10 * k := tenths_mul (by omega) one_pos
    have hshown := shown?_append (not_mem_decimal (by decide))
      (show ("B", 1) ∈ shownUnits by decide) (quotient?_of_digits (isDigits_decimal k))
    have hnumber : ((10 * k : Nat) : ℚ) / 10 = k / (1 : Nat) := by
      push_cast
      ring
    rw [mul_one] at htenths
    rw [valueFrom_decimal, ← hnumber, ← htenths] at hshown
    have hspace : utf8 " B" = byte ' ' :: utf8 "B" := rfl
    simp only [signed_natCast, text_cons, text_nil, hspace, List.append_nil]
    exact hshown

/-- A larger size is not shown as a smaller one, also where the unit changes. -/
theorem quantity_unitOf_mono {j k : Nat} (hjk : j ≤ k) (hk : k < 2 ^ 63) :
    (inTenths j (unitOf j)).quantity ≤ (inTenths k (unitOf k)).quantity := by
  have hj := unitOf_pos j
  have hk' := unitOf_pos k
  obtain ⟨e, he, hunit, hreached, hlargest⟩ := unitOf_spec j
  obtain ⟨f, hf, hunit', hreached', hlargest'⟩ := unitOf_spec k
  have hsmall : ∀ g ∈ [0, 10, 20, 30], 2 ^ g < 2 ^ 53 := by decide
  rcases lt_trichotomy e f with hef | rfl | hfe
  · -- The larger unit lies between the sizes, and is shown as it is in both units.
    have hbelow : j ≤ unitOf k := by
      rw [hunit']
      exact (hlargest f hf hef).le
    have habove : unitOf k ≤ k := by
      rw [hunit']
      exact hreached'.resolve_left (by omega)
    have hmul : 2 ^ (f - e) * unitOf j = unitOf k := by
      rw [hunit, hunit', ← pow_add, Nat.sub_add_cancel hef.le]
    have hlt : unitOf k < 2 ^ 53 := hunit' ▸ hsmall f hf
    calc (inTenths j (unitOf j)).quantity
        ≤ (inTenths (unitOf k) (unitOf j)).quantity :=
          quantity_mono hbelow (hlt.trans (by decide)) hj
      _ = unitOf k := by
          have hwhole := quantity_mul (k := 2 ^ (f - e)) (hmul ▸ hlt) hj
          rwa [hmul] at hwhole
      _ = (inTenths (unitOf k) (unitOf k)).quantity := by
          have hone := quantity_mul (k := 1) ((one_mul (unitOf k)).symm ▸ hlt) hk'
          rw [one_mul] at hone
          exact hone.symm
      _ ≤ (inTenths k (unitOf k)).quantity := quantity_mono habove hk hk'
  · rw [hunit'.trans hunit.symm]
    exact quantity_mono hjk hk hj
  · have hlt := hlargest' e he hfe
    have hle := hreached.resolve_left (by omega)
    omega

/-- A larger size is not shown as a smaller quantity, whatever the units and however the sizes are
rounded; and the quantity that is shown of a size that binary64 holds exactly is at most one
twentieth of its unit away from the size. -/
theorem format_keeps_order :
    (∀ m n : Int, 0 ≤ m → m ≤ n → n < 2 ^ 63 →
      ∃ a b, shown? (format m) = some a ∧ shown? (format n) = some b ∧ a.quantity ≤ b.quantity) ∧
    ∀ n : Int, 0 ≤ n → n < 2 ^ 53 →
      ∃ a, shown? (format n) = some a ∧ |a.quantity - n| ≤ (a.unit : ℚ) / 20 := by
  constructor
  · intro m n hm hmn hn
    lift m to Nat using hm
    lift n to Nat using by omega
    have hmn' : m ≤ n := by exact_mod_cast hmn
    have hn' : n < 2 ^ 63 := by exact_mod_cast hn
    exact ⟨_, _, shown?_format (hmn'.trans_lt hn'), shown?_format hn',
      quantity_unitOf_mono hmn' hn'⟩
  · intro n h0 hn
    lift n to Nat using h0
    have hn' : n < 2 ^ 53 := by exact_mod_cast hn
    exact ⟨_, shown?_format (hn'.trans (by decide)), abs_quantity_sub_le hn' (unitOf_pos n)⟩

example : format 1048575 = "1024.0 KB" ∧ format 1048576 = "1.0 MB" := by decide +kernel

end DocPull.Size
