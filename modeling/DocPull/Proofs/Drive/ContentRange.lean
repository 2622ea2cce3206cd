import DocPull.Drive.Export
import DocPull.Proofs.Text.Blank

/-!
# Ranges in headers

A header that asks for a range names its two positions without doubt, and the total of a content
range that is written in the usual form is read back. What else is read as a content range is said
by its grammar, and no total that is stated is taken for one that is left open.
-/
namespace DocPull.Drive

open Bytes

/-- The total in a content range; an asterisk leaves it open. -/
def totalText : Option Nat → Bytes
  | some n => decimal n
  | none => "*"

/-- The content range of the bytes from the first to the last position. -/
def contentRange (first last : Nat) (total : Option Nat) : Bytes :=
  text ["bytes ", decimal first, "-", decimal last, "/", totalText total]

/-- Two requests for the same range name the same positions. -/
theorem rangeHeader_injective {a b c d : Nat} (h : rangeHeader a b = rangeHeader c d) :
    a = c ∧ b = d := by
  have hdash : ∀ n : Nat, byte '-' ∉ decimal n := fun n => not_mem_decimal (by decide)
  have hform : ∀ m n : Nat,
      rangeHeader m n = utf8 "bytes=" ++ (decimal m ++ byte '-' :: decimal n) := by
    intro m n
    simp only [rangeHeader, signed_natCast, text_cons, text_nil, List.append_nil]
    rfl
  rw [hform, hform, List.append_cancel_left_eq] at h
  have hcut := congrArg (cut (byte '-')) h
  rw [cut_append _ (hdash a), cut_append _ (hdash c), Option.some.injEq, Prod.mk.injEq] at hcut
  exact ⟨decimal_injective hcut.1, decimal_injective hcut.2⟩

theorem totalText_ne_nil (total : Option Nat) : totalText total ≠ [] := by
  cases total with
  | none => decide
  | some n => exact decimal_ne_nil n

theorem totalText_isPrinting (total : Option Nat) : Blank.IsPrinting (totalText total) := by
  cases total with
  | none => decide
  | some n => exact Blank.isPrinting_of_digits fun _ => isDigit_of_mem_decimal

/-- A content range has no white space at its ends. -/
theorem trim_contentRange (first last : Nat) (total : Option Nat) :
    Blank.trim (contentRange first last total) = contentRange first last total := by
  have hdecimal : ∀ n, ∀ b ∈ decimal n, b < 0x80 := fun n =>
    (Blank.isPrinting_of_digits fun _ => isDigit_of_mem_decimal).ascii
  have hliteral : ∀ b ∈ utf8 "bytes " ++ utf8 "-" ++ utf8 "/", b < 0x80 := by decide +kernel
  have hfront : ∀ b ∈ utf8 "bytes " ++ (decimal first ++ (utf8 "-" ++ (decimal last ++ utf8 "/"))),
      b < 0x80 := by
    simp only [List.forall_mem_append] at hliteral ⊢
    exact ⟨hliteral.1.1, hdecimal first, hliteral.1.2, hdecimal last, hliteral.2⟩
  have hsplit : utf8 "bytes" ++ (byte ' ' :: (decimal first ++ (utf8 "-" ++ (decimal last ++
      (utf8 "/" ++ totalText total))))) = utf8 "bytes " ++ (decimal first ++ (utf8 "-" ++
        (decimal last ++ utf8 "/"))) ++ totalText total := by
    simp only [List.append_assoc]
    rfl
  have htrim := Blank.trim_of_ends hsplit (by decide) (totalText_isPrinting total)
    (TextUnit.valid_of_ascii hfront) (by decide) (totalText_ne_nil total)
  rw [contentRange, text_cons, text_cons, text_cons, text_cons, text_cons, text_cons, text_nil,
    List.append_nil]
  exact htrim

/-- A content range with this text for its total: white space at the ends apart, `bytes`, a space,
anything without a slash, a slash, and the total. -/
def Carries (header total : Bytes) : Prop :=
  ∃ range : Bytes, byte '/' ∉ range ∧ Blank.trim header = text ["bytes ", range, "/", total]

/-- What the text of a total says: an asterisk leaves it open, and an integer states it. -/
inductive Says (total : Bytes) : Option Nat → Prop
  | leftOpen (h : total = utf8 "*") : Says total none
  | stated {n : Nat} (h : Numeral.Denotes total n) (hn : n < 0x8000000000000000) :
      Says total (some n)

/-- The total of a content range is what two cuts leave. -/
theorem carries_iff {header total : Bytes} :
    Carries header total ↔ ∃ spec before, cut (byte ' ') (Blank.trim header) =
      some (utf8 "bytes", spec) ∧ cut (byte '/') spec = some (before, total) := by
  have hform : ∀ range : Bytes, text ["bytes ", range, "/", total] =
      utf8 "bytes" ++ byte ' ' :: (range ++ byte '/' :: total) := by
    intro range
    simp only [text_cons, text_nil, List.append_nil]
    rfl
  constructor
  · rintro ⟨range, hslash, htrim⟩
    refine ⟨_, range, ?_, cut_append total hslash⟩
    rw [htrim, hform]
    exact cut_append _ (by decide)
  · rintro ⟨spec, before, hunit, hspec⟩
    obtain ⟨htrim, -⟩ := eq_of_cut hunit
    obtain ⟨rfl, hslash⟩ := eq_of_cut hspec
    exact ⟨before, hslash, by rw [htrim, hform]⟩

theorem carries_unique {header total total' : Bytes} (h : Carries header total)
    (h' : Carries header total') : total = total' := by
  obtain ⟨spec, before, hunit, hspec⟩ := carries_iff.mp h
  obtain ⟨spec', before', hunit', hspec'⟩ := carries_iff.mp h'
  rw [hunit] at hunit'
  cases hunit'
  rw [hspec] at hspec'
  cases hspec'
  rfl

theorem not_carries_nil {total : Bytes} : ¬Carries [] total := by
  rintro ⟨range, -, htrim⟩
  cases htrim

theorem not_denotes_star {n : Int} : ¬Numeral.Denotes (utf8 "*") n := by
  rw [Numeral.denotes_iff]
  rintro ⟨hdigits, -⟩
  exact absurd (hdigits.digits (byte '*') (by decide)) (by decide)

/-- The text of a total is read as what it says. -/
theorem says_iff {total : Bytes} {t : Option Nat} :
    Says total t ↔ (if total = utf8 "*" then pure none
      else do
        let n ← (Numeral.integer total).toOption
        guard (0 ≤ n)
        pure (some n.toNat)) = some t := by
  split_ifs with hstar
  · subst hstar
    rw [Option.pure_def, Option.some.injEq]
    constructor
    · intro h
      cases h with
      | leftOpen => rfl
      | stated h => exact absurd h not_denotes_star
    · rintro rfl
      exact .leftOpen rfl
  · simp only [Option.bind_eq_bind, Option.bind_eq_some_iff, Outcome.toOption_eq_some,
      Numeral.integer_eq_ok, Option.guard_eq_some', Option.pure_def, Option.some.injEq,
      exists_const]
    constructor
    · intro h
      cases h with
      | leftOpen h => exact absurd h hstar
      | stated h hn => exact ⟨_, ⟨h, by omega, by omega⟩, by omega, by simp⟩
    · rintro ⟨n, ⟨hn, -, hhi⟩, hlo, rfl⟩
      refine .stated ?_ (by omega)
      rwa [Int.toNat_of_nonneg hlo]

/-- A content range is read exactly when it is missing or its total says something. -/
theorem parseContentRange_eq_some {header : Bytes} {t : Option Nat} :
    parseContentRange header = some t ↔
      header = [] ∧ t = none ∨ ∃ total, Carries header total ∧ Says total t := by
  by_cases hempty : header = []
  · subst hempty
    simp only [parseContentRange, if_true, Option.some.injEq, true_and, not_carries_nil, false_and,
      exists_false, or_false, eq_comm]
  · rw [parseContentRange, if_neg hempty]
    simp only [hempty, false_and, false_or, Option.bind_eq_bind, Option.bind_eq_some_iff,
      Prod.exists, carries_iff, says_iff, Option.guard_eq_some', exists_const, beq_iff_eq]
    constructor
    · rintro ⟨unit, spec, hunit, rfl, before, total, hspec, ht⟩
      exact ⟨total, ⟨spec, before, hunit, hspec⟩, ht⟩
    · rintro ⟨total, ⟨spec, before, hunit, hspec⟩, ht⟩
      exact ⟨_, spec, hunit, rfl, before, total, hspec, ht⟩

/-- The total of a content range is read back. -/
theorem parseContentRange_contentRange (first last : Nat) {total : Option Nat}
    (h : ∀ n ∈ total, n < 0x8000000000000000) :
    parseContentRange (contentRange first last total) = some total := by
  have hslash : byte '/' ∉ decimal first ++ byte '-' :: decimal last := by
    simp only [List.mem_append, List.mem_cons, not_or]
    exact ⟨not_mem_decimal (by decide), by decide, not_mem_decimal (by decide)⟩
  have hcarries : Carries (contentRange first last total) (totalText total) := by
    refine ⟨_, hslash, ?_⟩
    rw [trim_contentRange]
    simp only [contentRange, text_cons, text_nil, List.append_nil, List.append_assoc]
    rfl
  refine parseContentRange_eq_some.mpr (.inr ⟨_, hcarries, ?_⟩)
  cases total with
  | none => exact .leftOpen rfl
  | some n => exact .stated (Numeral.denotes_decimal n) (h n rfl)

/-- The number that marks a total which is not known. -/
def unknownTotal : Int := -1

/-- The total of a content range as one number. -/
def reportedTotal (header : Bytes) : Option Int :=
  (parseContentRange header).map fun total => total.elim unknownTotal Int.ofNat

theorem reportedTotal_eq_some {header : Bytes} {m : Int} :
    reportedTotal header = some m ↔
      ∃ total, parseContentRange header = some total ∧ total.elim unknownTotal Int.ofNat = m :=
  Option.map_eq_some_iff

theorem reportedTotal_eq_unknown {header : Bytes} :
    reportedTotal header = some unknownTotal ↔ header = [] ∨ Carries header "*" := by
  rw [reportedTotal_eq_some]
  constructor
  · rintro ⟨total, htotal, hm⟩
    cases total with
    | none =>
      obtain ⟨rfl, -⟩ | ⟨_, hcarries, hsays⟩ := parseContentRange_eq_some.mp htotal
      · exact .inl rfl
      · cases hsays with
        | leftOpen h => exact .inr (h ▸ hcarries)
    | some n => cases hm
  · intro h
    refine ⟨none, parseContentRange_eq_some.mpr ?_, rfl⟩
    exact h.imp (⟨·, rfl⟩) fun hcarries => ⟨_, hcarries, .leftOpen rfl⟩

theorem reportedTotal_eq_natCast {header : Bytes} {n : Nat} :
    reportedTotal header = some (n : Int) ↔
      ∃ total, Carries header total ∧ Numeral.Denotes total n ∧ n < 0x8000000000000000 := by
  rw [reportedTotal_eq_some]
  constructor
  · rintro ⟨total, htotal, hm⟩
    cases total with
    | none => cases hm
    | some k =>
      obtain rfl : k = n := Int.ofNat.inj hm
      obtain ⟨-, ⟨⟩⟩ | ⟨total, hcarries, hsays⟩ := parseContentRange_eq_some.mp htotal
      cases hsays with
      | stated h hk => exact ⟨total, hcarries, h, hk⟩
  · rintro ⟨total, hcarries, h, hn⟩
    exact ⟨some n, parseContentRange_eq_some.mpr (.inr ⟨total, hcarries, .stated h hn⟩), rfl⟩

theorem reportedTotal_unknown_or_natCast {header : Bytes} {m : Int}
    (h : reportedTotal header = some m) : m = unknownTotal ∨ ∃ n : Nat, m = n := by
  obtain ⟨total, -, rfl⟩ := reportedTotal_eq_some.mp h
  cases total with
  | none => exact .inl rfl
  | some n => exact .inr ⟨n, rfl⟩

/-- Content ranges are read by their grammar. The total is unknown exactly when the header is
missing or has an asterisk for its total; it is a number exactly when the header states this number,
with a sign or without, and it fits 64 bits; and every other header is refused. So the usual form
gives its total back, and an integer that is stated, even a negative one, is never taken for the
mark of a total that is not known. -/
theorem reportedTotal_grammar (header : Bytes) :
    (reportedTotal header = some unknownTotal ↔ header = [] ∨ Carries header "*") ∧
      (∀ n : Int, 0 ≤ n → (reportedTotal header = some n ↔
        ∃ total, Carries header total ∧ Numeral.Denotes total n ∧ n ≤ 2 ^ 63 - 1)) ∧
      (reportedTotal header = none ↔ ¬(header = [] ∨ Carries header "*") ∧
        ¬∃ n total, 0 ≤ n ∧ Carries header total ∧ Numeral.Denotes total n ∧ n ≤ 2 ^ 63 - 1) ∧
      (∀ first last total : Nat, first < 2 ^ 63 → last < 2 ^ 63 → total < 2 ^ 63 →
        reportedTotal (contentRange first last (some total)) = some (total : Int)) ∧
      ∀ total n, Carries header total → Numeral.Denotes total n →
        reportedTotal header ≠ some unknownTotal := by
  have hstated : ∀ n : Int, 0 ≤ n → (reportedTotal header = some n ↔
      ∃ total, Carries header total ∧ Numeral.Denotes total n ∧ n ≤ 2 ^ 63 - 1) := by
    intro n hn
    obtain ⟨k, rfl⟩ := Int.eq_ofNat_of_zero_le hn
    rw [reportedTotal_eq_natCast]
    exact exists_congr fun total => and_congr_right' (and_congr_right' (by omega))
  refine ⟨reportedTotal_eq_unknown, hstated, ?_, ?_, ?_⟩
  · constructor
    · intro hnone
      rw [← reportedTotal_eq_unknown, hnone]
      refine ⟨nofun, ?_⟩
      rintro ⟨n, total, hn, htotal⟩
      rw [(hstated n hn).mpr ⟨total, htotal⟩] at hnone
      cases hnone
    · rintro ⟨hopen, hnumber⟩
      rw [Option.eq_none_iff_forall_ne_some]
      intro m hm
      obtain rfl | ⟨n, rfl⟩ := reportedTotal_unknown_or_natCast hm
      · exact hopen (reportedTotal_eq_unknown.mp hm)
      · obtain ⟨total, htotal⟩ := (hstated n (by omega)).mp hm
        exact hnumber ⟨n, total, by omega, htotal⟩
  · intro first last total _ _ htotal
    refine reportedTotal_eq_some.mpr ⟨some total, parseContentRange_contentRange first last ?_, rfl⟩
    rintro n ⟨⟩
    exact htotal
  · intro total n hcarries hn hunknown
    obtain rfl | hopen := reportedTotal_eq_unknown.mp hunknown
    · exact not_carries_nil hcarries
    · exact not_denotes_star (carries_unique hcarries hopen ▸ hn)

/-- A total may have a sign and leading zeros, and minus one is no total. -/
theorem signedTotal_reported :
    reportedTotal " bytes 0-9/+0012" = some 12 ∧ Carries "bytes 0-9/-1" "-1" ∧
      reportedTotal "bytes 0-9/-1" ≠ some unknownTotal := by
  have hplus : Numeral.Denotes (utf8 "+0012") 12 :=
    .plus (s := utf8 "0012") ⟨by decide, by decide +kernel⟩
  have hminus : Numeral.Denotes (utf8 "-1") (-1) :=
    .minus (s := utf8 "1") ⟨by decide, by decide +kernel⟩
  have hcarries : Carries "bytes 0-9/-1" "-1" := ⟨"0-9", by decide, by decide +kernel⟩
  obtain ⟨-, hstated, -⟩ := reportedTotal_grammar " bytes 0-9/+0012"
  obtain ⟨-, -, -, -, hnever⟩ := reportedTotal_grammar "bytes 0-9/-1"
  refine ⟨(hstated 12 (by decide)).mpr ⟨_, ⟨"0-9", by decide, by decide +kernel⟩, hplus, by decide⟩,
    hcarries, hnever _ _ hcarries hminus⟩

end DocPull.Drive
