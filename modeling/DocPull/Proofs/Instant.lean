import DocPull.Proofs.Bytes
import DocPull.Proofs.Calendar
import DocPull.Proofs.Number.Decimal

/-!
# Instants read back

The text of an instant is read back as the same instant on the same clock, when a document can hold
it and its clock is off by whole minutes.
-/
namespace DocPull.Instant

open Bytes

theorem fixed?_of_digits {s : Bytes} (hs : ∀ b ∈ s, isDigit b = true) (n : Nat) (t : Bytes) :
    fixed? s.length n (s ++ t) = some (valueFrom n s, t) := by
  induction s generalizing n with
  | nil => rfl
  | cons b s ih =>
    rw [List.forall_mem_cons] at hs
    rw [List.length_cons, List.cons_append, fixed?, if_pos hs.1, ih hs.2, valueFrom_cons]

/-- A number that is filled up with zeros is read back. -/
theorem fixed?_padded {w n : Nat} (hw : 0 < w) (h : n < 10 ^ w) (t : Bytes) :
    fixed? w 0 (padded w n ++ t) = some (n, t) := by
  have hread := fixed?_of_digits (fun b => isDigit_of_mem_padded (w := w) (n := n)) 0 t
  rw [length_padded hw h, valueFrom_padded] at hread
  exact hread

theorem expect?_self (b : UInt8) (t : Bytes) : expect? b (b :: t) = some t := by
  rw [expect?, if_pos rfl]

/-- The text of a fraction of a second: nothing, or a point and digits without zeros at the end. -/
def fractionText (nanos : Nat) : Bytes :=
  if nanos = 0 then [] else byte '.' :: trimEnd (byte '0') (padded 9 nanos)

theorem fraction_fractionText {nanos : Nat} (h : nanos < 1000000000) {t : Bytes}
    (ht : ∀ b ∈ t.head?, isDigit b = false ∧ b ≠ byte '.' ∧ b ≠ byte ',') :
    fraction (fractionText nanos ++ t) = (nanos, t) := by
  rw [fractionText]
  split_ifs with hzero
  · rw [List.nil_append, hzero, fraction.eq_def]
    cases t with
    | nil => rfl
    | cons b t =>
      obtain ⟨-, hpoint, hcomma⟩ := ht b rfl
      simp [hpoint, hcomma]
  · obtain ⟨k, hk⟩ := trimEnd_append (byte '0') (padded 9 nanos)
    have hlength := length_padded (by decide) (show nanos < 10 ^ 9 by omega)
    have hvalue := valueFrom_padded 9 nanos
    have hdigits : ∀ b ∈ padded 9 nanos, isDigit b = true := fun b => isDigit_of_mem_padded
    generalize trimEnd (byte '0') (padded 9 nanos) = s at hk ⊢
    rw [hk] at hlength hvalue hdigits
    have hs : s ≠ [] := by
      rintro rfl
      rw [List.nil_append] at hvalue
      exact hzero (hvalue.symm.trans (valueFrom_zeros k))
    have htake : (s ++ t).takeWhile isDigit = s :=
      takeWhile_digits (fun b hb => hdigits b (List.mem_append_left _ hb)) fun b hb => (ht b hb).1
    rw [List.length_append, List.length_replicate] at hlength
    have hnine : (s ++ List.replicate 9 (byte '0')).take 9 = s ++ List.replicate k (byte '0') := by
      rw [List.take_append, List.take_of_length_le (by omega), List.take_replicate]
      congr 2
      omega
    rw [List.cons_append, fraction.eq_def]
    simp only [htake, hnine]
    rw [if_pos ⟨.inl trivial, hs⟩]
    refine Prod.ext hvalue ?_
    simp

theorem offset?_signed {b : UInt8} (hb : b = byte '-' ∨ b = byte '+') {hours minutes : Nat}
    (hh : hours < 24) (hm : minutes < 60) :
    offset? (b :: (padded 2 hours ++ byte ':' :: padded 2 minutes)) =
      some (if b = byte '-' then -((hours * 60 + minutes : Nat) * 60 : Int)
        else ((hours * 60 + minutes : Nat) * 60 : Int)) := by
  have hz : b :: (padded 2 hours ++ byte ':' :: padded 2 minutes) ≠ utf8 "Z" := by
    intro heq
    have hlength := congrArg List.length heq
    rw [List.length_cons, List.length_append, length_padded (by decide) (by omega)] at hlength
    revert hlength
    simp only [List.length_cons, show (utf8 "Z").length = 1 by decide]
    omega
  have hminutes := fixed?_padded (w := 2) (by decide) (show minutes < 10 ^ 2 by omega) []
  rw [List.append_nil] at hminutes
  have hsign : (decide (b = byte '-') || decide (b = byte '+')) = true := by
    obtain rfl | rfl := hb <;> decide
  have hbounds : (hours ≤ 24 ∧ minutes ≤ 60) := by omega
  rw [offset?]
  simp only [if_neg hz, List.head?_cons, List.tail_cons, Option.bind_eq_bind, Option.bind_some,
    hsign, guard_true, fixed?_padded (show 0 < 2 by decide) (show hours < 10 ^ 2 by omega),
    expect?_self, hminutes]
  simp [hbounds]

/-- An offset without its seconds, cut towards zero. -/
def wholeMinutes (offset : Int) : Int :=
  if offset < 0 then -(-offset / 60 * 60) else offset / 60 * 60

/-- The same wall clock on an offset of whole minutes, which is all that a text can say. -/
def onMinutes (t : Instant) : Instant :=
  ⟨t.seconds + (t.offset - wholeMinutes t.offset), t.nanos, wholeMinutes t.offset⟩

theorem onMinutes_eq_self {t : Instant} (h : t.offset % 60 = 0) : t.onMinutes = t := by
  have hwhole : wholeMinutes t.offset = t.offset := by
    rw [wholeMinutes]
    split_ifs <;> omega
  rw [onMinutes, hwhole, Int.sub_self, Int.add_zero]

/-- The text of an offset is read back without its seconds. -/
theorem offset?_zone {t : Instant} (hday : t.offset.natAbs < 86400) :
    offset? t.zone = some (wholeMinutes t.offset) := by
  have hhours : t.offset.natAbs / 60 / 60 < 24 := by omega
  have hrest : t.offset.natAbs / 60 % 60 < 60 := by omega
  rw [zone, wholeMinutes]
  split_ifs with hzero hneg hneg
  · omega
  · rw [hzero]
    rfl
  · have hread := offset?_signed (.inl rfl) hhours hrest
    simp only [text_cons, text_nil, List.append_nil]
    change offset? (byte '-' :: (padded 2 _ ++ byte ':' :: padded 2 _)) = _
    rw [hread, if_pos rfl, Option.some.injEq]
    omega
  · have hread := offset?_signed (.inr rfl) hhours hrest
    simp only [text_cons, text_nil, List.append_nil]
    change offset? (byte '+' :: (padded 2 _ ++ byte ':' :: padded 2 _)) = _
    rw [hread, if_neg (by decide), Option.some.injEq]
    omega

theorem zone_first (t : Instant) :
    ∀ b ∈ t.zone.head?, isDigit b = false ∧ b ≠ byte '.' ∧ b ≠ byte ',' := by
  rw [zone]
  split_ifs with hzero hneg
  · decide +kernel
  · rw [text_cons]
    rintro b ⟨⟩
    decide
  · rw [text_cons]
    rintro b ⟨⟩
    decide

/-- The text of a date and a time of day on a clock. -/
def written (year month day hour minute second nanos : Nat) (zone : Bytes) : Bytes :=
  padded 4 year ++ byte '-' :: (padded 2 month ++ byte '-' :: (padded 2 day ++ byte 'T' ::
    (padded 2 hour ++ byte ':' :: (padded 2 minute ++ byte ':' :: (padded 2 second ++
      (fractionText nanos ++ zone))))))

/-- A date of the calendar with a time of day is read back. -/
theorem parse?_written {year month day hour minute second nanos : Nat} {offset : Int}
    {zone : Bytes} (hyear : year < 10000) (hmonth : 1 ≤ month ∧ month ≤ 12)
    (hday : 1 ≤ day ∧ day ≤ daysIn year month) (hhour : hour < 24) (hminute : minute < 60)
    (hsecond : second < 60) (hnanos : nanos < 1000000000) (hzone : offset? zone = some offset)
    (hfirst : ∀ b ∈ zone.head?, isDigit b = false ∧ b ≠ byte '.' ∧ b ≠ byte ',') :
    parse? (written year month day hour minute second nanos zone) =
      some (ofClock year month day hour minute second nanos offset) := by
  have hday' : day ≤ 31 := by
    refine hday.2.trans ?_
    rw [daysIn]
    split_ifs <;> decide
  have hread : ∀ n < 60, ∀ t, fixed? 2 0 (padded 2 n ++ t) = some (n, t) := fun n hn t =>
    fixed?_padded (by decide) (by omega) t
  have hhour' : ∀ t, short? (padded 2 hour ++ t) = some (hour, t) := by
    intro t
    rw [short?, hread hour (by omega)]
  rw [parse?, written, fixed?_padded (by decide) (by omega)]
  simp only [Option.bind_eq_bind, Option.bind_some, expect?_self, hread month (by omega),
    hread day (by omega), hhour', hread minute hminute, hread second hsecond,
    fraction_fractionText hnanos hfirst, hzone]
  simp [hmonth, hday, hhour, hminute, hsecond]

theorem unwritable?_eq_none {t : Instant} (h : t.unwritable? = none) :
    0 ≤ t.year ∧ t.year ≤ 9999 ∧ t.offset.natAbs < 86400 := by
  rw [unwritable?] at h
  by_cases hyear : t.year < 0 ∨ 9999 < t.year
  · rw [if_pos hyear] at h
    cases h
  · rw [if_neg hyear] at h
    by_cases hday : 86400 ≤ t.offset.natAbs
    · rw [if_pos hday] at h
      cases h
    · omega

theorem toText_eq_written (t : Instant) : t.toText =
    written (dateOfDays ((t.seconds + t.offset).fdiv 86400)).1.toNat
      (dateOfDays ((t.seconds + t.offset).fdiv 86400)).2.1
      (dateOfDays ((t.seconds + t.offset).fdiv 86400)).2.2
      ((t.seconds + t.offset - (t.seconds + t.offset).fdiv 86400 * 86400).toNat / 3600)
      ((t.seconds + t.offset - (t.seconds + t.offset).fdiv 86400 * 86400).toNat / 60 % 60)
      ((t.seconds + t.offset - (t.seconds + t.offset).fdiv 86400 * 86400).toNat % 60)
      t.nanos t.zone := by
  simp only [toText, clock, written, fractionText, text_cons, text_nil, List.append_nil,
    List.append_assoc]
  rfl

/-- An instant that is written is read back on the same wall clock. -/
theorem parse?_toText {t : Instant} (hw : t.unwritable? = none) (hnanos : t.nanos < 1000000000) :
    parse? t.toText = some t.onMinutes := by
  obtain ⟨hlow, hhigh, hoffset⟩ := unwritable?_eq_none hw
  rw [year] at hlow hhigh
  obtain ⟨hm₁, hm₂, hd₁, hd₂⟩ := dateOfDays_valid hlow
  have hdays := daysOfDate_dateOfDays ((t.seconds + t.offset).fdiv 86400)
  have hfdiv : (t.seconds + t.offset).fdiv 86400 = (t.seconds + t.offset) / 86400 :=
    Int.fdiv_eq_ediv_of_nonneg _ (by decide)
  rw [toText_eq_written, parse?_written (by omega) ⟨hm₁, hm₂⟩ ⟨hd₁, hd₂⟩ (by omega) (by omega)
    (by omega) hnanos (offset?_zone hoffset) (zone_first t), Option.some.injEq, ofClock,
    Int.toNat_of_nonneg hlow, hdays]
  simp only [onMinutes, Instant.mk.injEq, and_true]
  omega

theorem ascii_of_isDigit {b : UInt8} (h : isDigit b = true) : b < 0x80 := by
  have hb := isDigit_iff.mp h
  rw [UInt8.lt_iff_toNat_lt]
  exact hb.2.trans_lt (by decide)

theorem ascii_padded (w n : Nat) : ∀ b ∈ padded w n, b < 0x80 :=
  fun _ hb => ascii_of_isDigit (isDigit_of_mem_padded hb)

theorem ascii_fractionText (nanos : Nat) : ∀ b ∈ fractionText nanos, b < 0x80 := by
  rw [fractionText]
  split_ifs with hzero
  · exact List.forall_mem_nil _
  · rw [List.forall_mem_cons]
    refine ⟨by decide, fun b hb => ?_⟩
    obtain ⟨k, hk⟩ := trimEnd_append (byte '0') (padded 9 nanos)
    refine ascii_padded 9 nanos b ?_
    rw [hk]
    exact List.mem_append_left _ hb

theorem ascii_zone (t : Instant) : ∀ b ∈ t.zone, b < 0x80 := by
  rw [zone]
  split_ifs with hzero
  · decide +kernel
  all_goals
    simp only [text_cons, text_nil, List.forall_mem_append]
    exact ⟨by decide +kernel, ascii_padded _ _, by decide +kernel, ascii_padded _ _,
      List.forall_mem_nil _⟩

/-- The text of an instant is ASCII. -/
theorem ascii_toText (t : Instant) : ∀ b ∈ t.toText, b < 0x80 := by
  rw [toText_eq_written, written]
  simp only [List.forall_mem_append, List.forall_mem_cons]
  exact ⟨ascii_padded _ _, by decide, ascii_padded _ _, by decide, ascii_padded _ _, by decide,
    ascii_padded _ _, by decide, ascii_padded _ _, by decide, ascii_padded _ _,
    ascii_fractionText _, ascii_zone t⟩

theorem fraction_lt (s : Bytes) : (fraction s).1 < 1000000000 := by
  rw [fraction.eq_def]
  split
  · rename_i b rest
    simp only
    split_ifs
    · have hdigits : ∀ d ∈ (rest.takeWhile isDigit ++ List.replicate 9 (byte '0')).take 9,
          isDigit d = true := by
        intro d hd
        rcases List.mem_append.mp (List.mem_of_mem_take hd) with h | h
        · exact List.all_eq_true.mp List.all_takeWhile d h
        · rw [List.eq_of_mem_replicate h]
          rfl
      have hlt := valueFrom_lt hdigits 0
      refine hlt.trans_le ?_
      rw [List.length_take, Nat.min_eq_left (by simp)]
      decide
    · simp
  · simp

theorem offset?_whole {s : Bytes} {offset : Int} (h : offset? s = some offset) :
    offset % 60 = 0 := by
  simp only [offset?, Option.bind_eq_bind] at h
  split_ifs at h with hz
  · cases h
    rfl
  · simp only [Option.bind_eq_some_iff] at h
    obtain ⟨b, -, -, -, ⟨hours, r₁⟩, -, r₂, -, ⟨minutes, r₃⟩, -, -, -, h⟩ := h
    simp only [pure, Option.some.injEq] at h
    split_ifs at h <;> omega

/-- What every instant that is read satisfies. -/
theorem parse?_fields {s : Bytes} {t : Instant} (h : parse? s = some t) :
    t.nanos < 1000000000 ∧ t.offset % 60 = 0 := by
  simp only [parse?, Option.bind_eq_bind, Option.bind_eq_some_iff] at h
  obtain ⟨⟨year, s₁⟩, -, s₂, -, ⟨month, s₃⟩, -, s₄, -, ⟨day, s₅⟩, -, s₆, -, ⟨hour, s₇⟩, -, s₈, -,
    ⟨minute, s₉⟩, -, s₁₀, -, ⟨second, s₁₁⟩, -, offset, hoffset, -, -, -, -, h⟩ := h
  cases h
  exact ⟨fraction_lt s₁₁, offset?_whole hoffset⟩

theorem laterNanos_lt (t : Instant) (nanos : Int) : (t.laterNanos nanos).nanos < 1000000000 := by
  have hfmod : (t.nanos + nanos).fmod 1000000000 = (t.nanos + nanos) % 1000000000 :=
    Int.fmod_eq_emod_of_nonneg _ (by decide)
  simp only [laterNanos, hfmod]
  omega

end DocPull.Instant
