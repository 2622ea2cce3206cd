import DocPull.Proofs.Size.Parse
import DocPull.Proofs.Size.Units

/-!
# Sizes beyond 64 bits

A size denotes a number of bytes: none, an integer, or a number of units. Too many units are not
refused; their bytes are cut to the smallest integer. So are no number of units and infinitely many.
Only what is too large for binary64 itself is refused again. Where the lost sizes begin depends on
the unit, because the number of units is rounded before its product is. Every other size is read as
an integer that is not negative or, when its bytes do not fit 64 bits, refused.
-/
namespace DocPull

namespace Numeral.Number

/-- A number of units, each of so many bytes. -/
def times : Number → Nat → Number
  | nan, _ => nan
  | infinite negative, _ => infinite negative
  | exactly q, unit => exactly (q * unit)

/-- A number between the smallest and the largest integer of 64 bits. -/
def InRange : Number → Prop
  | nan => False
  | infinite _ => False
  | exactly q => -2 ^ 63 ≤ q ∧ q ≤ 2 ^ 63 - 1

end Numeral.Number

namespace Size

open Bytes Numeral Blank Binary64

/-- A size counts units: it is a numeral, white space and a unit in any case. -/
def Counts (s : Bytes) (x : Number) (unit : Nat) : Prop :=
  ∃ numeral suffix, trim s = numeral ++ suffix ∧ Stands (trim numeral) x ∧ Spells suffix unit

/-- The number of bytes that a size denotes. -/
inductive Means (s : Bytes) : Number → Prop
  | blank (h : trim s = []) : Means s (.exactly 0)
  | bytes {n : Int} (h : Numeral.Denotes (trim s) n) : Means s (.exactly n)
  | units {x : Number} {unit : Nat} (h : Counts s x unit) : Means s (x.times unit)

/-- So many units that their bytes reach two to the sixty-third, after both roundings. -/
def TooMany (q : ℚ) : Nat → Prop
  | 1000 => 9223372036854775 ≤ q
  | 1000000 => 9444732965739289 / 2 ^ 10 < q
  | 1000000000 => 9671406556917033 / 2 ^ 20 < q
  | unit => 2 ^ 63 - 2 ^ 9 ≤ q * unit

/-- Numbers of units whose bytes are lost. From two to the 1024th on, up to rounding, a number is
not read at all. -/
def Lost : Number → Nat → Prop
  | .nan, _ => True
  | .infinite negative, _ => negative = false
  | .exactly q, unit => TooMany q unit ∧ q < 2 ^ 1024 - 2 ^ 970

/-- A size whose bytes are lost. -/
def Overflows (s : Bytes) : Prop := ∃ x unit, Counts s x unit ∧ Lost x unit

/-- A numeral with white space around it stands in front of a unit. -/
theorem isFront_of_stands {numeral : Bytes} {x : Number} (h : Stands (trim numeral) x) :
    IsFront numeral ∧ ∀ b ∈ numeral.getLast?, upper b ∉ innerLetters := by
  have hends : ∀ b, isNumeralByte b = true ∨ upper b ∈ utf8 "FNY" → upper b ∉ innerLetters :=
    forall_byte (by decide +kernel)
  have hletters : ∀ b, isLetter b = false → upper b ∉ innerLetters :=
    forall_byte (by decide +kernel)
  obtain ⟨-, hascii, hlast⟩ := h.bytes
  obtain ⟨before, after, hbefore, hafter, hnumeral⟩ := exists_around numeral
  have hinner : ∀ b ∈ (trim numeral).getLast?, upper b ∉ innerLetters := fun b hb =>
    hends b (hlast b hb)
  rw [hnumeral]
  exact ⟨isFront_around hbefore hascii hinner hafter, last_around hletters hbefore hinner hafter⟩

/-- The units that are counted are those found at the end. -/
theorem counts_iff {s : Bytes} {x : Number} {unit : Nat} :
    Counts s x unit ↔
      ∃ numeral, unit? (trim s) = some (numeral, unit) ∧ Stands (trim numeral) x := by
  constructor
  · rintro ⟨numeral, suffix, hs, hx, hsuffix⟩
    exact ⟨numeral, hs ▸ unit?_append (isFront_of_stands hx).1 hsuffix, hx⟩
  · rintro ⟨numeral, hunit, hx⟩
    obtain ⟨suffix, hsuffix, hs⟩ | ⟨b, hb, hinner⟩ := unit?_split hunit
    · exact ⟨numeral, suffix, hs, hx, hsuffix⟩
    · exact absurd hinner ((isFront_of_stands hx).2 b hb)

/-- The least number of units in binary64 whose bytes reach the bound. It has fifty-three bits, and
a number that is written is too large as soon as it is rounded to it or beyond. -/
structure LeastLost (unit m : Nat) (e : Int) : Prop where
  normal : 2 ^ 52 < m ∧ m ≤ 2 ^ 53 ∧ minExp ≤ e
  below : ((m : ℚ) - 1) * 2 ^ e < (2 ^ 63 - 2 ^ 9) / unit
  reached : (2 ^ 63 - 2 ^ 9) / unit ≤ (m : ℚ) * 2 ^ e
  half_fits : halfBelow m e * unit ≤ 2 ^ 63 - 1
  tooMany_iff : ∀ q, TooMany q unit ↔ Reaches m e q

theorem exists_leastLost {p : String × Nat} (hp : p ∈ units) : ∃ m e, LeastLost p.2 m e := by
  simp only [units, List.mem_cons, List.not_mem_nil, or_false] at hp
  obtain rfl | rfl | rfl | rfl | rfl | rfl | rfl := hp
  · refine ⟨2 ^ 53, -20, by decide, by norm_num, by norm_num, by norm_num [halfBelow], fun q => ?_⟩
    rw [reaches_even (by decide)]
    norm_num [TooMany, halfBelow]
    constructor <;> intro h <;> linarith
  · refine ⟨2 ^ 53, -10, by decide, by norm_num, by norm_num, by norm_num [halfBelow], fun q => ?_⟩
    rw [reaches_even (by decide)]
    norm_num [TooMany, halfBelow]
    constructor <;> intro h <;> linarith
  · refine ⟨2 ^ 53, 0, by decide, by norm_num, by norm_num, by norm_num [halfBelow], fun q => ?_⟩
    rw [reaches_even (by decide)]
    norm_num [TooMany, halfBelow]
    constructor <;> intro h <;> linarith
  · refine ⟨4835703278458517, -19, by decide, by norm_num, by norm_num, by norm_num [halfBelow],
      fun q => ?_⟩
    rw [reaches_odd (by decide)]
    norm_num [TooMany, halfBelow]
  · refine ⟨4722366482869645, -9, by decide, by norm_num, by norm_num, by norm_num [halfBelow],
      fun q => ?_⟩
    rw [reaches_odd (by decide)]
    norm_num [TooMany, halfBelow]
  · refine ⟨4611686018427388, 1, by decide, by norm_num, by norm_num, by norm_num [halfBelow],
      fun q => ?_⟩
    rw [reaches_even (by decide)]
    norm_num [TooMany, halfBelow]
  · refine ⟨2 ^ 53, 10, by decide, by norm_num, by norm_num, by norm_num [halfBelow], fun q => ?_⟩
    rw [reaches_even (by decide)]
    norm_num [TooMany, halfBelow]

section Unit

variable {name : String} {unit : Nat}

theorem le_of_not_tooMany (hunit : (name, unit) ∈ units) {q : ℚ} (h : ¬TooMany q unit) :
    q * unit ≤ 2 ^ 63 - 1 := by
  obtain ⟨m, e, hleast⟩ := exists_leastLost hunit
  have hle : q ≤ halfBelow m e := not_lt.mp fun hlt => h ((hleast.tooMany_iff q).mpr (.inl hlt))
  exact (mul_le_mul_of_nonneg_right hle (Nat.cast_nonneg _)).trans hleast.half_fits

theorem pos_of_tooMany (hunit : (name, unit) ∈ units) {q : ℚ} (h : TooMany q unit) : 0 < q := by
  obtain ⟨m, e, hleast⟩ := exists_leastLost hunit
  have hm : (2 : ℚ) ^ 52 < m := by exact_mod_cast hleast.normal.1
  have hhalf : 0 < halfBelow m e := mul_pos (by linarith) (two_zpow_pos e)
  obtain h | ⟨-, h⟩ := (hleast.tooMany_iff q).mp h
  · exact hhalf.trans h
  · exact h ▸ hhalf

/-- The bound on the product is a bound on the number of units as it was rounded, and so one on the
number that was written. -/
theorem le_rounded_product_iff (hunit : (name, unit) ∈ units) {num den a b : Nat} (hden : den ≠ 0)
    (hb : b ≠ 0) (hproduct : (a : ℚ) / b = rounded num den * unit) :
    2 ^ 63 ≤ rounded a b ↔ TooMany (num / den) unit := by
  obtain ⟨m, e, ⟨⟨hm, hm', he⟩, hlow, hhigh, -, hreaches⟩⟩ := exists_leastLost hunit
  have hpos : (0 : ℚ) < unit := by exact_mod_cast (unit_bounds hunit).1
  have hbound : ((2 ^ 53 : Nat) : ℚ) * 2 ^ (10 : Int) = 2 ^ 63 := by norm_num
  have hhalf : halfBelow (2 ^ 53) 10 = 2 ^ 63 - 2 ^ 9 := by norm_num [halfBelow]
  rw [← hbound, le_rounded_iff hb (by decide) (by decide) (by decide), reaches_even (by decide),
    hhalf, hproduct, ← div_le_iff₀ hpos, le_rounded_iff_of_between hden hm hm' he hlow hhigh,
    hreaches]

/-- The bytes of lost units are cut to the smallest integer. -/
theorem scaled_of_lost (hunit : (name, unit) ∈ units) {numeral : Bytes} {x : Number}
    (hx : Stands numeral x) (h : Lost x unit) (size : Bytes) :
    scaled size numeral unit = .ok minInt := by
  obtain ⟨-, hsmall⟩ := unit_bounds hunit
  cases hx with
  | nan hname => exact scaled_of_nan hname
  | infinite hname =>
    obtain rfl := h
    exact scaled_of_infinite hsmall hname
  | @exactly negative num den hname hquotient =>
    have hden := (quotient?_pos hquotient).ne'
    have hq := pos_of_tooMany hunit h.1
    obtain rfl : negative = false := by
      refine Bool.eq_false_of_not_eq_true fun hnegative => ?_
      rw [signedQuotient, if_pos hnegative, Left.neg_pos_iff] at hq
      exact absurd hq (not_lt.mpr (by positivity))
    obtain ⟨htoo, hread⟩ := h
    rw [signedQuotient, if_neg Bool.false_ne_true] at htoo hread
    obtain ⟨hlarge, -⟩ | ⟨⟨hnegative, -⟩, -⟩ | ⟨-, a, b, hb, hproduct, hscaled⟩ :=
      scaled_cases size hname hquotient hsmall
    · exact absurd ((rounded_large_iff num hden).mp hlarge) (not_le.mpr hread)
    · cases hnegative
    · have hreach := (le_rounded_product_iff hunit hden hb hproduct).mpr htoo
      rw [hscaled, if_neg (not_lt.mpr hreach)]

/-- What is read from units that are not lost is not negative, and their bytes fit 64 bits. -/
theorem range_of_scaled (hunit : (name, unit) ∈ units) {numeral : Bytes} {x : Number}
    (hx : Stands numeral x) (h : ¬Lost x unit) {size : Bytes} {n : Int}
    (hscaled : scaled size numeral unit = .ok n) : 0 ≤ n ∧ (x.times unit).InRange := by
  obtain ⟨-, hsmall⟩ := unit_bounds hunit
  cases hx with
  | nan hname => exact absurd trivial h
  | @infinite negative hname =>
    obtain rfl : negative = true := by simpa [Lost] using h
    rw [scaled_of_negative_infinite hname] at hscaled
    cases hscaled
  | @exactly negative num den hname hquotient =>
    have hden := (quotient?_pos hquotient).ne'
    obtain ⟨-, herror⟩ | ⟨-, herror⟩ | ⟨⟨hread, hzero⟩, a, b, hb, hproduct, hok⟩ :=
      scaled_cases size hname hquotient hsmall
    · rw [herror] at hscaled
      cases hscaled
    · rw [herror] at hscaled
      cases hscaled
    · have hreach := le_rounded_product_iff hunit hden hb hproduct
      have hfew : ¬TooMany (num / den) unit := by
        cases negative with
        | false =>
          have hlt := mt (rounded_large_iff num hden).mpr (not_le.mpr hread)
          exact fun htoo => h ⟨htoo, not_le.mp hlt⟩
        | true =>
          -- What is rounded to zero has a product of zero.
          rw [← hreach, not_le]
          rw [hzero rfl, zero_mul, div_eq_zero_iff, or_iff_left (by exact_mod_cast hb)] at hproduct
          rw [Nat.cast_eq_zero.mp hproduct, rounded_zero]
          norm_num
      rw [hok, if_pos (not_le.mp (mt hreach.mp hfew)), Except.ok.injEq] at hscaled
      have hle := le_of_not_tooMany hunit hfew
      have hnonneg : (0 : ℚ) ≤ num / den * unit :=
        mul_nonneg (div_nonneg (Nat.cast_nonneg _) (Nat.cast_nonneg _)) (Nat.cast_nonneg _)
      refine ⟨hscaled ▸ Int.natCast_nonneg _, ?_⟩
      rw [Number.times, Number.InRange, signedQuotient]
      split_ifs <;> constructor <;> linarith only [hle, hnonneg]

end Unit

section Parse

variable {s numeral : Bytes} {unit : Nat}

theorem parse_of_overflows (h : Overflows s) : parse s = .ok minInt := by
  obtain ⟨x, unit, hcounts, hlost⟩ := h
  obtain ⟨numeral, hunit, hx⟩ := counts_iff.mp hcounts
  obtain ⟨name, hname⟩ := exists_name_of_unit? hunit
  rw [parse_of_unit hunit]
  exact scaled_of_lost hname hx hlost _

theorem inRange_zero : (Number.exactly 0).InRange := ⟨by norm_num, by norm_num⟩

theorem not_counts (hunit : unit? (trim s) = none) {x : Number} : ¬Counts s x unit := by
  intro hcounts
  obtain ⟨numeral, hsome, -⟩ := counts_iff.mp hcounts
  rw [hunit] at hsome
  cases hsome

/-- With a unit, what is read without overflow is a number of bytes that fits. -/
theorem range_of_parse_units (h : ¬Overflows s) (hunit : unit? (trim s) = some (numeral, unit))
    {n : Int} (hparse : parse s = .ok n) :
    0 ≤ n ∧ ∀ x, Means s x → x.InRange := by
  obtain ⟨name, hname⟩ := exists_name_of_unit? hunit
  rw [parse_of_unit hunit] at hparse
  have hrange : ∀ x, Stands (trim numeral) x → 0 ≤ n ∧ (x.times unit).InRange := fun x hx =>
    range_of_scaled hname hx
      (fun hlost => h ⟨x, unit, counts_iff.mpr ⟨numeral, hunit, hx⟩, hlost⟩) hparse
  constructor
  · obtain ⟨x, hx⟩ | ⟨hname, hquotient⟩ := stands_or_none (trim numeral)
    · exact (hrange x hx).1
    · rw [scaled_of_no_number hname hquotient] at hparse
      cases hparse
  · intro x hx
    cases hx with
    | blank _ => exact inRange_zero
    | bytes hn =>
      rw [unit?_of_integer hn] at hunit
      cases hunit
    | units hcounts =>
      obtain ⟨numeral', hunit', hx⟩ := counts_iff.mp hcounts
      rw [hunit, Option.some.injEq, Prod.mk.injEq] at hunit'
      obtain ⟨rfl, rfl⟩ := hunit'
      exact (hrange _ hx).2

/-- Without a unit, what is read is an integer that fits. -/
theorem range_of_parse_integer (hunit : unit? (trim s) = none) {n : Int}
    (hparse : parse s = .ok n) : 0 ≤ n ∧ ∀ x, Means s x → x.InRange := by
  by_cases hblank : trim s = []
  · rw [parse_blank hblank, Except.ok.injEq] at hparse
    refine ⟨hparse.le, fun x hx => ?_⟩
    cases hx with
    | blank _ => exact inRange_zero
    | bytes hn =>
      rw [hblank] at hn
      cases hn with
      | plain h => exact absurd rfl h.ne_nil
    | units hcounts => exact absurd hcounts (not_counts hunit)
  · obtain ⟨hinteger, hnonneg⟩ := (parse_eq_ok_of_no_unit hblank hunit).mp hparse
    obtain ⟨hdenotes, hlow, hhigh⟩ := integer_eq_ok.mp hinteger
    refine ⟨hnonneg, fun x hx => ?_⟩
    cases hx with
    | blank h => exact absurd h hblank
    | @bytes m hm =>
      obtain rfl := (denotes_iff.mp hm).2.trans (denotes_iff.mp hdenotes).2.symm
      have hlow' : (-2 ^ 63 : Int) ≤ m := hlow
      have hhigh' : m ≤ 2 ^ 63 - 1 := Int.le_sub_one_of_lt hhigh
      exact ⟨by exact_mod_cast hlow', by exact_mod_cast hhigh'⟩
    | units hcounts => exact absurd hcounts (not_counts hunit)

end Parse

/-- An overflow is read as the smallest integer. Without one, no size is read as a negative integer,
and one whose bytes do not fit 64 bits is refused. -/
theorem parse_overflow (s : Bytes) :
    (Overflows s → parse s = .ok (-2 ^ 63)) ∧
      (¬Overflows s → (∀ n, parse s = .ok n → 0 ≤ n) ∧
        ∀ x, Means s x → ¬x.InRange → ∃ e, parse s = .error e) := by
  refine ⟨parse_of_overflows, fun h => ?_⟩
  have hrange : ∀ n, parse s = .ok n → 0 ≤ n ∧ ∀ x, Means s x → x.InRange := by
    intro n hn
    cases hunit : unit? (trim s) with
    | none => exact range_of_parse_integer hunit hn
    | some found => exact range_of_parse_units h hunit hn
  refine ⟨fun n hn => (hrange n hn).1, fun x hx hout => ?_⟩
  cases hparse : parse s with
  | error e => exact ⟨e, rfl⟩
  | ok n => exact absurd ((hrange n hparse).2 x hx) hout

/-- Ten to the thirtieth gigabytes overflow. -/
theorem hugeSize_overflows :
    Overflows (utf8 "1e30GB") ∧ parse (utf8 "1e30GB") = .ok (-2 ^ 63) := by
  have hstands : Stands (trim (utf8 "1e30")) (.exactly (signedQuotient false (10 ^ 30) 1)) :=
    .exactly (by decide +kernel) (by decide +kernel)
  have hcounts : Counts "1e30GB" (.exactly (signedQuotient false (10 ^ 30) 1)) (10 ^ 9) :=
    ⟨"1e30", "GB", by decide +kernel, hstands, "GB", by decide, rfl⟩
  have hsmall : (10 : ℚ) ^ 30 < 2 ^ 970 :=
    (show (10 : ℚ) ^ 30 < 2 ^ 100 by norm_num).trans_le
      (pow_le_pow_right₀ (by norm_num) (by decide))
  have hread : (10 : ℚ) ^ 30 < 2 ^ 1024 - 2 ^ 970 := lt_sub_iff_add_lt.mpr <|
    calc (10 : ℚ) ^ 30 + 2 ^ 970 < 2 ^ 970 + 2 ^ 970 := add_lt_add_left hsmall _
      _ = 2 ^ 971 := by rw [← mul_two, ← pow_succ]
      _ ≤ 2 ^ 1024 := pow_le_pow_right₀ (by norm_num) (by decide)
  have hvalue : signedQuotient false (10 ^ 30) 1 = 10 ^ 30 := by
    rw [signedQuotient, if_neg Bool.false_ne_true, Nat.cast_one, div_one, Nat.cast_pow,
      Nat.cast_ofNat]
  rw [hvalue] at hcounts
  have hoverflows : Overflows (utf8 "1e30GB") :=
    ⟨_, _, hcounts, by norm_num [TooMany], hread⟩
  exact ⟨hoverflows, (parse_overflow (utf8 "1e30GB")).1 hoverflows⟩

end Size

end DocPull
