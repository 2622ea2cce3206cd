import DocPull.Proofs.Bytes
import DocPull.Proofs.Number.Decimal
import DocPull.Proofs.Number.Rounding

/-!
# What numerals stand for

A numeral stands for no number, for an infinite one, or for a quotient, exactly. Digits stand for
their value. The number is read into binary64 by rounding it once, unless that makes it infinite.
A numeral is ASCII, and few letters can end one.
-/
namespace DocPull.Numeral

open Bytes

/-- What a numeral stands for, before any rounding. -/
inductive Number where
  | nan
  | infinite (negative : Bool)
  | exactly (q : ℚ)

/-- A magnitude with a sign. -/
def signedQuotient (negative : Bool) (num den : Nat) : ℚ :=
  if negative then -(num / den) else num / den

/-- The number that a numeral stands for: one with a name, or the exact value of its digits and its
exponent, of which five digits are read. -/
inductive Stands (s : Bytes) : Number → Prop
  | nan (h : named? s = some .nan) : Stands s .nan
  | infinite {negative : Bool} (h : named? s = some (.infinite negative)) :
      Stands s (.infinite negative)
  | exactly {negative : Bool} {num den : Nat} (hname : named? s = none)
      (h : quotient? s = some (negative, num, den)) :
      Stands s (.exactly (signedQuotient negative num den))

/-- What stands for no number has neither a name nor a value. -/
theorem stands_or_none (s : Bytes) :
    (∃ x, Stands s x) ∨ named? s = none ∧ quotient? s = none := by
  have hnamed : named? s = none ∨ named? s = some .nan ∨
      ∃ negative, named? s = some (.infinite negative) := by
    unfold named?
    dsimp only
    split_ifs
    · exact .inr (.inr ⟨_, rfl⟩)
    · exact .inr (.inl rfl)
    · exact .inl rfl
  obtain hname | h | ⟨negative, h⟩ := hnamed
  · cases hquotient : quotient? s with
    | none => exact .inr ⟨hname, rfl⟩
    | some r => exact .inl ⟨_, .exactly hname hquotient⟩
  · exact .inl ⟨_, .nan h⟩
  · exact .inl ⟨_, .infinite h⟩

theorem power_pos (value : Nat) {base : Nat} (hbase : 0 < base) (exp : Int) :
    0 < (power value base exp).2 := by
  unfold power
  split_ifs
  · exact Nat.pow_pos hbase
  · exact Nat.one_pos

theorem scaled_pos (ds : Digits) (hexadecimal : Bool) (exp : Int) :
    0 < (ds.scaled hexadecimal exp).2 := by
  unfold Digits.scaled
  split_ifs
  · exact power_pos _ (by decide) _
  · exact power_pos _ (by decide) _

/-- The value of a numeral is a quotient. -/
theorem quotient?_pos {s : Bytes} {negative : Bool} {num den : Nat}
    (h : quotient? s = some (negative, num, den)) : 0 < den := by
  simp only [quotient?, Option.bind_eq_bind, Option.bind_eq_some_iff, Option.guard_eq_some',
    Option.pure_def, Option.some.injEq, exists_const, Prod.exists, Prod.mk.injEq] at h
  obtain ⟨-, exp, rest, -, -, -, -, hscaled⟩ := h
  have hpos := scaled_pos (digits (if (radix (sign s).2).1 then 16 else 10) ⟨0, 0, false, false⟩
    (radix (sign s).2).2).1 (radix (sign s).2).1 exp
  rwa [hscaled] at hpos

section OfDigits

variable {s : Bytes}

/-- Digits are read one after the other, before what follows them. -/
theorem digits_append (hs : ∀ b ∈ s, isDigit b = true) (ds : Digits) (rest : Bytes) :
    digits 10 ds (s ++ rest) =
      digits 10 ⟨valueFrom ds.value s, if ds.point then ds.afterPoint + s.length else ds.afterPoint,
        ds.any || !s.isEmpty, ds.point⟩ rest := by
  induction s generalizing ds with
  | nil => simp
  | cons b s ih =>
    rw [List.forall_mem_cons] at hs
    have hunderscore : b ≠ byte '_' := by
      rintro rfl
      exact absurd hs.1 (by decide)
    have hpoint : b ≠ byte '.' := by
      rintro rfl
      exact absurd hs.1 (by decide)
    rw [List.cons_append, digits, if_neg hunderscore, if_neg hpoint,
      digit?_decimal.mpr ⟨hs.1, rfl⟩]
    dsimp only
    rw [ih hs.2, valueFrom_cons, mul_comm]
    cases ds.point <;> simp [Nat.add_assoc, Nat.add_comm 1]

theorem digits_of_digits (hs : ∀ b ∈ s, isDigit b = true) (v : Nat) (any : Bool) :
    digits 10 ⟨v, 0, any, false⟩ s = (⟨valueFrom v s, 0, any || !s.isEmpty, false⟩, []) := by
  have happend := digits_append hs ⟨v, 0, any, false⟩ []
  rwa [List.append_nil] at happend

theorem radix_of_lower (hs : ∀ b ∈ s, lower b ≠ byte 'x') : radix s = (false, s) := by
  unfold radix
  split
  · rename_i z x d more
    exact if_neg fun hmarker => hs x (by simp) hmarker.2
  · rfl

theorem lower_digit_ne {b : UInt8} (hb : isDigit b = true) : lower b ≠ byte 'x' := by
  rw [lower_digit hb]
  rintro rfl
  exact absurd hb (by decide)

theorem radix_of_digits (hs : ∀ b ∈ s, isDigit b = true) : radix s = (false, s) :=
  radix_of_lower fun b hb => lower_digit_ne (hs b hb)

/-- Digits have no name. -/
theorem named?_of_digits (hs : ∀ b ∈ s, isDigit b = true) : named? s = none := by
  have hlower : s.map lower = s := by
    rw [List.map_congr_left fun b hb => lower_digit (hs b hb), List.map_id']
  have hnot : ∀ name : Bytes, (∃ b ∈ name, isDigit b = false) → s ≠ name := by
    rintro name ⟨b, hb, hd⟩ rfl
    rw [hs b hb] at hd
    cases hd
  unfold named?
  rw [hlower]
  simp only [sign_of_digits hs]
  rw [if_neg, if_neg]
  · exact hnot _ ⟨byte 'n', by decide, by decide⟩
  · rintro (h | h)
    · exact hnot _ ⟨byte 'i', by decide, by decide⟩ h
    · exact hnot _ ⟨byte 'i', by decide, by decide⟩ h

/-- Digits have their value. -/
theorem quotient?_of_digits (h : IsDigits s) : quotient? s = some (false, valueFrom 0 s, 1) := by
  have hunderscore : s.contains (byte '_') = false := by
    rw [List.contains_eq_mem, decide_eq_false_iff_not]
    exact fun hmem => absurd (h.digits _ hmem) (by decide)
  have hany : (!s.isEmpty) = true := by simpa using h.ne_nil
  simp only [quotient?, sign_of_digits h.digits, radix_of_digits h.digits, Bool.false_eq_true,
    if_false, digits_of_digits h.digits, hany, hunderscore, exponentAfter?, Digits.scaled, power]
  simp

/-- Digits with a point among them have their value divided by a power of ten. -/
theorem quotient?_of_point (h : IsDigits s) {part : Bytes} (hpart : IsDigits part) :
    quotient? (s ++ byte '.' :: part) =
      some (false, valueFrom (valueFrom 0 s) part, 10 ^ part.length) := by
  have hbytes : ∀ b ∈ s ++ byte '.' :: part, b ≠ byte '_' ∧ lower b ≠ byte 'x' := by
    have hdigit : ∀ b, isDigit b = true → b ≠ byte '_' ∧ lower b ≠ byte 'x' := by
      intro b hb
      refine ⟨?_, lower_digit_ne hb⟩
      rintro rfl
      exact absurd hb (by decide)
    refine List.forall_mem_append.mpr ⟨fun b hb => hdigit b (h.digits b hb), ?_⟩
    exact List.forall_mem_cons.mpr ⟨by decide, fun b hb => hdigit b (hpart.digits b hb)⟩
  have hsign : sign (s ++ byte '.' :: part) = (false, s ++ byte '.' :: part) := by
    obtain ⟨b, s, rfl⟩ := List.exists_cons_of_ne_nil h.ne_nil
    exact sign_cons_digit (h.digits b List.mem_cons_self) _
  have hradix := radix_of_lower fun b hb => (hbytes b hb).2
  have hunderscore : (s ++ byte '.' :: part).contains (byte '_') = false := by
    rw [List.contains_eq_mem, decide_eq_false_iff_not]
    exact fun hmem => (hbytes _ hmem).1 rfl
  have hdigits : digits 10 ⟨0, 0, false, false⟩ (s ++ byte '.' :: part) =
      (⟨valueFrom (valueFrom 0 s) part, part.length, true, true⟩, []) := by
    have hs : s.isEmpty = false := by simpa using h.ne_nil
    calc digits 10 ⟨0, 0, false, false⟩ (s ++ byte '.' :: part)
        = digits 10 ⟨valueFrom 0 s, 0, true, false⟩ (byte '.' :: part) := by
          simpa [hs] using digits_append h.digits ⟨0, 0, false, false⟩ (byte '.' :: part)
      _ = digits 10 ⟨valueFrom 0 s, 0, true, true⟩ part := by
          rw [digits, if_neg (by decide), if_pos rfl]
          rfl
      _ = _ := by
          have hpart' := digits_append hpart.digits ⟨valueFrom 0 s, 0, true, true⟩ []
          rw [List.append_nil] at hpart'
          simpa [digits] using hpart'
  have hscaled : Digits.scaled ⟨valueFrom (valueFrom 0 s) part, part.length, true, true⟩ false 0 =
      (valueFrom (valueFrom 0 s) part, 10 ^ part.length) := by
    have hpos := List.length_pos_of_ne_nil hpart.ne_nil
    have hlength : (0 : Int) - part.length < 0 := by omega
    have hnatAbs : ((0 : Int) - part.length).natAbs = part.length := by omega
    rw [Digits.scaled, if_neg Bool.false_ne_true, power, if_pos hlength, hnatAbs]
    rfl
  simp only [quotient?, hsign, hradix, Bool.false_eq_true, if_false, hdigits, hunderscore,
    exponentAfter?]
  simpa using hscaled

end OfDigits

/-- A numeral with a value is read by rounding it once, unless it is too large. -/
theorem binary64_cases {s : Bytes} {negative : Bool} {num den : Nat} (hname : named? s = none)
    (h : quotient? s = some (negative, num, den)) :
    binary64 s = .error .outOfRange ∧ 2 ^ 1024 ≤ Binary64.rounded num den ∨
      ∃ m e, binary64 s = .ok (.finite negative m e) ∧
        (m : ℚ) * 2 ^ e = Binary64.rounded num den ∧ Binary64.rounded num den < 2 ^ 1024 := by
  simp only [binary64, hname, h]
  obtain ⟨hr, hlarge⟩ | ⟨m, e, hr, hvalue, hsmall⟩ :=
    Binary64.ofRatio_cases negative num (quotient?_pos h).ne'
  · rw [hr]
    exact .inl ⟨rfl, hlarge⟩
  · rw [hr]
    exact .inr ⟨m, e, rfl, hvalue, hsmall⟩

/-- The bytes of a numeral that has no name. -/
def isNumeralByte (b : UInt8) : Bool := isDigit b || (utf8 "ABCDEFPX+-._").contains (upper b)

/-- What is left of a text after bytes of a numeral. -/
def Consumes (s rest : Bytes) : Prop :=
  ∃ front, s = front ++ rest ∧ ∀ b ∈ front, isNumeralByte b = true

namespace Consumes

theorem refl (s : Bytes) : Consumes s s := ⟨[], rfl, nofun⟩

theorem cons {b : UInt8} {s rest : Bytes} (hb : isNumeralByte b = true) (h : Consumes s rest) :
    Consumes (b :: s) rest := by
  obtain ⟨front, rfl, hfront⟩ := h
  exact ⟨b :: front, rfl, List.forall_mem_cons.mpr ⟨hb, hfront⟩⟩

theorem trans {s mid rest : Bytes} (h : Consumes s mid) (h' : Consumes mid rest) :
    Consumes s rest := by
  obtain ⟨front, rfl, hfront⟩ := h
  obtain ⟨front', rfl, hfront'⟩ := h'
  exact ⟨front ++ front', by simp, List.forall_mem_append.mpr ⟨hfront, hfront'⟩⟩

end Consumes

theorem isNumeralByte_digit {b : UInt8} (h : isDigit b = true) : isNumeralByte b = true := by
  rw [isNumeralByte, h, Bool.true_or]

/-- The digits of a base up to sixteen. -/
theorem isNumeralByte_of_digit? {base d : Nat} (hbase : base ≤ 16) {b : UInt8}
    (h : (digit? b).filter (· < base) = some d) : isNumeralByte b = true := by
  have hall : ∀ b, ∀ d ∈ digit? b, d < 16 → isNumeralByte b = true :=
    forall_byte (by decide +kernel)
  rw [Option.filter_eq_some_iff, decide_eq_true_iff] at h
  exact hall b d h.1 (h.2.trans_le hbase)

theorem consumes_sign (s : Bytes) : Consumes s (sign s).2 := by
  cases s with
  | nil => exact .refl _
  | cons b s =>
    rw [sign]
    split_ifs with hminus hplus
    · exact .cons (hminus ▸ by decide) (.refl s)
    · exact .cons (hplus ▸ by decide) (.refl s)
    · exact .refl _

theorem consumes_radix (s : Bytes) : Consumes s (radix s).2 := by
  have hmarker : ∀ b, lower b = byte 'x' → isNumeralByte b = true :=
    forall_byte (by decide +kernel)
  unfold radix
  split
  · rename_i z x d more
    split_ifs with h
    · exact .cons (h.1 ▸ by decide) (.cons (hmarker x h.2) (.refl _))
    · exact .refl _
  · exact .refl _

theorem consumes_digits {base : Nat} (hbase : base ≤ 16) (ds : Digits) (s : Bytes) :
    Consumes s (digits base ds s).2 := by
  induction s generalizing ds with
  | nil => exact .refl _
  | cons b s ih =>
    by_cases hunderscore : b = byte '_'
    · rw [digits, if_pos hunderscore]
      exact .cons (hunderscore ▸ by decide) (ih ds)
    rw [digits, if_neg hunderscore]
    by_cases hpoint : b = byte '.'
    · rw [if_pos hpoint]
      split_ifs
      · exact .refl _
      · exact .cons (hpoint ▸ by decide) (ih _)
    · rw [if_neg hpoint]
      split
      · rename_i d hd
        exact .cons (isNumeralByte_of_digit? hbase hd) (ih _)
      · exact .refl _

theorem consumes_exponentDigits (n : Nat) (s : Bytes) : Consumes s (exponentDigits n s).2 := by
  induction s generalizing n with
  | nil => exact .refl _
  | cons b s ih =>
    by_cases hunderscore : b = byte '_'
    · rw [exponentDigits, if_pos hunderscore]
      exact .cons (hunderscore ▸ by decide) (ih n)
    rw [exponentDigits, if_neg hunderscore]
    by_cases hdigit : isDigit b = true
    · rw [if_pos hdigit]
      exact .cons (isNumeralByte_digit hdigit) (ih _)
    · rw [if_neg hdigit]
      exact .refl _

theorem consumes_exponent? {s rest : Bytes} {exp : Int} (h : exponent? s = some (exp, rest)) :
    Consumes s rest := by
  refine (consumes_sign s).trans ?_
  unfold exponent? at h
  dsimp only at h
  split at h
  · rename_i b more hmore
    by_cases hdigit : isDigit b = true
    · rw [if_pos hdigit, Option.some.injEq, Prod.mk.injEq] at h
      rw [← h.2]
      exact consumes_exponentDigits 0 _
    · rw [if_neg hdigit] at h
      cases h
  · cases h

theorem consumes_exponentAfter? {hexadecimal : Bool} {s rest : Bytes} {exp : Int}
    (h : exponentAfter? hexadecimal s = some (exp, rest)) : Consumes s rest := by
  have hletter : ∀ b, lower b = byte 'p' ∨ lower b = byte 'e' → isNumeralByte b = true :=
    forall_byte (by decide +kernel)
  cases s with
  | nil =>
    rw [exponentAfter?] at h
    split_ifs at h
    cases h
    exact .refl _
  | cons b s =>
    rw [exponentAfter?] at h
    by_cases hb : lower b = if hexadecimal then byte 'p' else byte 'e'
    · rw [if_pos hb] at h
      refine .cons (hletter b ?_) (consumes_exponent? h)
      split_ifs at hb with hhex
      · exact .inl hb
      · exact .inr hb
    · rw [if_neg hb] at h
      split_ifs at h
      rw [Option.some.injEq, Prod.mk.injEq] at h
      rw [← h.2]
      exact .refl _

/-- A numeral with a value consists of bytes of numerals. -/
theorem isNumeralByte_of_quotient? {s : Bytes} {r : Bool × Nat × Nat} (h : quotient? s = some r) :
    ∀ b ∈ s, isNumeralByte b = true := by
  simp only [quotient?, Option.bind_eq_bind, Option.bind_eq_some_iff, Option.guard_eq_some',
    exists_const, Prod.exists] at h
  obtain ⟨-, exp, rest, hexp, hempty, -⟩ := h
  have hbase : (if (radix (sign s).2).1 then 16 else 10) ≤ 16 := by split_ifs <;> decide
  have hall : Consumes s rest :=
    (consumes_sign s).trans <| (consumes_radix _).trans <|
      (consumes_digits hbase ⟨0, 0, false, false⟩ _).trans <| consumes_exponentAfter? hexp
  obtain ⟨front, rfl, hfront⟩ := hall
  rwa [List.isEmpty_iff.mp hempty, List.append_nil]

/-- The names of numbers, in lower case and with their signs. -/
def names : List Bytes := ["nan", "inf", "+inf", "-inf", "infinity", "+infinity", "-infinity"]

theorem lower_mem_names {s : Bytes} {v : Binary64} (h : named? s = some v) :
    s.map lower ∈ names := by
  have hsign : ∀ t name : Bytes, (sign t).2 = name →
      t = name ∨ t = byte '+' :: name ∨ t = byte '-' :: name := by
    rintro t _ rfl
    cases t with
    | nil => exact .inl rfl
    | cons b t =>
      rw [sign]
      split_ifs with hminus hplus
      · exact .inr (.inr (by rw [hminus]))
      · exact .inr (.inl (by rw [hplus]))
      · exact .inl rfl
  have hinf : ∀ name : Bytes, name = utf8 "inf" ∨ name = utf8 "infinity" →
      name ∈ names ∧ byte '+' :: name ∈ names ∧ byte '-' :: name ∈ names := by
    rintro _ (rfl | rfl) <;> decide
  unfold named? at h
  dsimp only at h
  split_ifs at h with hname hnan
  · obtain ⟨hplain, hplus, hminus⟩ := hinf _ hname
    obtain ht | ht | ht := hsign (s.map lower) _ rfl
    · rwa [ht]
    · rwa [ht]
    · rwa [ht]
  · rw [hnan]
    decide

/-- A numeral has at least one byte. All are ASCII, and its last is that of a numeral or of a
name. -/
theorem Stands.bytes {s : Bytes} {x : Number} (h : Stands s x) :
    s ≠ [] ∧ (∀ b ∈ s, b < 0x80) ∧
      ∀ b ∈ s.getLast?, isNumeralByte b = true ∨ upper b ∈ utf8 "FNY" := by
  have hascii : ∀ b, isNumeralByte b = true → b < 0x80 := forall_byte (by decide +kernel)
  have hlower : ∀ b, lower b < 0x80 → b < 0x80 := forall_byte (by decide +kernel)
  have hupper : ∀ b, upper b = upper (lower b) := forall_byte (by decide +kernel)
  have hnames : ∀ t ∈ names, (t ≠ [] ∧ ∀ b ∈ t, b < 0x80) ∧
      ∀ b ∈ t.getLast?, upper b ∈ utf8 "FNY" := by decide +kernel
  have hnamed : ∀ v, named? s = some v → s ≠ [] ∧ (∀ b ∈ s, b < 0x80) ∧
      ∀ b ∈ s.getLast?, isNumeralByte b = true ∨ upper b ∈ utf8 "FNY" := by
    intro v hv
    obtain ⟨⟨hne, hsmall⟩, hlast⟩ := hnames _ (lower_mem_names hv)
    refine ⟨fun hs => hne (by rw [hs, List.map_nil]), fun b hb => ?_, fun b hb => .inr ?_⟩
    · exact hlower b (hsmall _ (List.mem_map_of_mem hb))
    · rw [hupper]
      refine hlast _ ?_
      rw [List.getLast?_map]
      exact Option.mem_map_of_mem lower hb
  cases h with
  | nan h => exact hnamed _ h
  | infinite h => exact hnamed _ h
  | exactly _ h =>
    have hbytes := isNumeralByte_of_quotient? h
    refine ⟨?_, fun b hb => hascii b (hbytes b hb),
      fun b hb => .inl (hbytes b (List.mem_of_getLast? hb))⟩
    rintro rfl
    have hnone : quotient? [] = none := by decide
    rw [hnone] at h
    cases h

end DocPull.Numeral
