import DocPull.Proofs.Bytes
import DocPull.Proofs.Number.Quotient
import DocPull.Proofs.Text.Upper
import DocPull.Size

/-!
# The unit of a size

The end of a text in upper case is searched for the units in turn. A unit that is spelled in any
case is found behind every numeral, also where another unit ends with it, and a unit that is found
behind a numeral is spelled so.
-/
namespace DocPull.Size

open Bytes

/-- The units as they are usually spelled. -/
def spellings : List (String × Nat) :=
  [("B", 1), ("KB", 10 ^ 3), ("MB", 10 ^ 6), ("GB", 10 ^ 9), ("KiB", 2 ^ 10), ("MiB", 2 ^ 20),
    ("GiB", 2 ^ 30)]

/-- A text spells a unit, in letters of any case. -/
def Spells (s : Bytes) (unit : Nat) : Prop :=
  ∃ name, (name, unit) ∈ spellings ∧ s.map upper = (utf8 name).map upper

theorem spells_iff {s : Bytes} {unit : Nat} :
    Spells s unit ↔ ∃ name, (name, unit) ∈ units ∧ s.map upper = utf8 name := by
  have hout : ∀ p ∈ spellings, ∃ q ∈ units, q.2 = p.2 ∧ (utf8 p.1).map upper = utf8 q.1 := by
    decide
  have hback : ∀ q ∈ units, ∃ p ∈ spellings, p.2 = q.2 ∧ (utf8 p.1).map upper = utf8 q.1 := by
    decide
  constructor
  · rintro ⟨name, hname, hs⟩
    obtain ⟨⟨name', unit'⟩, hmem, rfl, hupper⟩ := hout _ hname
    exact ⟨name', hmem, hs.trans hupper⟩
  · rintro ⟨name, hname, hs⟩
    obtain ⟨⟨name', unit'⟩, hmem, rfl, hupper⟩ := hback _ hname
    exact ⟨name', hmem, hs.trans hupper.symm⟩

theorem Spells.isPrinting {s : Bytes} {unit : Nat} (h : Spells s unit) : Blank.IsPrinting s := by
  obtain ⟨name, hname, hs⟩ := spells_iff.mp h
  have hunits : ∀ p ∈ units, ∀ b ∈ utf8 p.1, isLetter b = true := by decide +kernel
  have hletters : ∀ b, isLetter (upper b) = true → 0x20 < b.toNat ∧ b.toNat < 0x7F :=
    forall_byte (by decide +kernel)
  intro b hb
  exact hletters b (hunits _ hname _ (hs ▸ List.mem_map_of_mem hb))

theorem Spells.ne_nil {s : Bytes} {unit : Nat} (h : Spells s unit) : s ≠ [] := by
  obtain ⟨name, hname, hs⟩ := spells_iff.mp h
  have hunits : ∀ p ∈ units, utf8 p.1 ≠ [] := by decide
  rintro rfl
  exact hunits _ hname hs.symm

theorem unit_bounds {p : String × Nat} (hp : p ∈ units) : 0 < p.2 ∧ p.2 < 2 ^ 53 := by
  have hunits : ∀ p ∈ units, 0 < p.2 ∧ p.2 < 2 ^ 53 := by decide
  exact hunits p hp

theorem Spells.bounds {s : Bytes} {unit : Nat} (h : Spells s unit) : 0 < unit ∧ unit < 2 ^ 53 := by
  obtain ⟨name, hname, -⟩ := spells_iff.mp h
  exact unit_bounds hname

theorem exists_name_of_unit? {s numeral : Bytes} {unit : Nat} (h : unit? s = some (numeral, unit)) :
    ∃ name, (name, unit) ∈ units := by
  obtain ⟨⟨name, _⟩, hfind, hcut⟩ := Option.map_eq_some_iff.mp h
  obtain ⟨-, rfl⟩ := Prod.mk.injEq _ _ _ _ ▸ hcut
  exact ⟨name, List.mem_of_find?_eq_some hfind⟩

/-- The letters that stand in a unit before its last. -/
def innerLetters : Bytes := "GIKM"

/-- A text in front of a unit: its end does not belong to the unit. -/
structure IsFront (s : Bytes) : Prop where
  valid : TextUnit.valid s = true
  last : ∀ b ∈ (Fold.upper s).getLast?, b ∉ innerLetters

/-- What holds of all bytes but letters holds of the last byte of a text with white space around it,
if it does of the last byte of the text. -/
theorem last_around {p : UInt8 → Prop} (hp : ∀ b, isLetter b = false → p b) {before s after : Bytes}
    (hbefore : Blank.IsBlankText before) (hs : ∀ b ∈ s.getLast?, p b)
    (hafter : Blank.IsBlankText after) : ∀ b ∈ (before ++ s ++ after).getLast?, p b := by
  intro b hb
  rw [List.getLast?_append, List.getLast?_append] at hb
  obtain hb | ⟨-, hb⟩ := Option.or_eq_some_iff.mp hb
  · exact hp b (hafter.not_isLetter b (List.mem_of_getLast? hb))
  obtain hb | ⟨-, hb⟩ := Option.or_eq_some_iff.mp hb
  · exact hs b hb
  · exact hp b (hbefore.not_isLetter b (List.mem_of_getLast? hb))

theorem not_mem_innerLetters {b : UInt8} (h : isLetter b = false) : b ∉ innerLetters := by
  have hletters : ∀ b ∈ innerLetters, isLetter b = true := by decide +kernel
  intro hb
  rw [hletters b hb] at h
  cases h

/-- ASCII text with white space around it, whose last byte belongs to no unit. -/
theorem isFront_around {before s after : Bytes} (hbefore : Blank.IsBlankText before)
    (hs : ∀ b ∈ s, b < 0x80) (hlast : ∀ b ∈ s.getLast?, upper b ∉ innerLetters)
    (hafter : Blank.IsBlankText after) : IsFront (before ++ s ++ after) := by
  have hvalid := TextUnit.valid_append hbefore.valid (TextUnit.valid_of_ascii hs)
  refine ⟨TextUnit.valid_append hvalid hafter.valid, ?_⟩
  rw [Fold.upper_append hvalid, Fold.upper_append hbefore.valid, Fold.upper_blank hbefore,
    Fold.upper_blank hafter, Fold.upper_ascii hs]
  refine last_around (fun b => not_mem_innerLetters) hbefore (fun b hb => ?_) hafter
  rw [List.getLast?_map] at hb
  obtain ⟨a, ha, rfl⟩ := Option.map_eq_some_iff.mp hb
  exact hlast a ha

/-- A unit is found behind a text that does not end in a part of it. -/
theorem unit?_append {s suffix : Bytes} {unit : Nat} (hs : IsFront s) (h : Spells suffix unit) :
    unit? (s ++ suffix) = some (s, unit) := by
  obtain ⟨name, hname, hsuffix⟩ := spells_iff.mp h
  have hupper : Fold.upper (s ++ suffix) = Fold.upper s ++ utf8 name := by
    rw [Fold.upper_append hs.valid, Fold.upper_ascii h.isPrinting.ascii, hsuffix]
  have hname' : utf8 name ≠ [] := by
    rw [← hsuffix]
    simpa using h.ne_nil
  have hinner : ∀ q ∈ units, ∀ b ∈ (utf8 q.1).dropLast, b ∈ innerLetters := by
    decide +kernel
  have hfirst : ∀ p ∈ units, units.find? (fun q => decide (utf8 q.1 <:+ utf8 p.1)) = some p := by
    decide
  have hfind : units.find? (fun q => endsWith (Fold.upper s ++ utf8 name) (utf8 q.1)) =
      some (name, unit) := by
    rw [← hfirst _ hname]
    refine List.find?_congr fun q hq => ?_
    rw [Bool.eq_iff_iff, endsWith_iff, decide_eq_true_iff]
    exact suffix_append_iff hname' fun b hb => mt (hinner q hq b) (hs.last b hb)
  have hlength : (s ++ suffix).length - (utf8 name).length = s.length := by
    rw [← hsuffix, List.length_append, List.length_map, Nat.add_sub_cancel]
  simp only [unit?, hupper, hfind, Option.map_some, hlength, List.take_left]

/-- Behind ASCII text whose last byte ends no unit there is none. -/
theorem unit?_eq_none {s : Bytes} (hs : ∀ b ∈ s, b < 0x80)
    (hlast : ∀ b ∈ s.getLast?, upper b ≠ byte 'B') : unit? s = none := by
  have hends : ∀ p ∈ units, (utf8 p.1).getLast? = some (byte 'B') := by decide
  rw [unit?, Fold.upper_ascii hs, Option.map_eq_none_iff, List.find?_eq_none]
  intro p hp hend
  obtain ⟨front, hfront⟩ := endsWith_iff.mp hend
  have hb := congrArg List.getLast? hfront
  rw [List.getLast?_append, hends p hp, Option.some_or, List.getLast?_map] at hb
  obtain ⟨b, hb, hupper⟩ := Option.map_eq_some_iff.mp hb.symm
  exact hlast b hb hupper

/-- No unit is found behind an integer. -/
theorem unit?_of_integer {s : Bytes} {n : Int} (h : Numeral.Denotes s n) : unit? s = none := by
  have hdigit : ∀ b, isDigit b = true → b < 0x80 ∧ upper b ≠ byte 'B' := by
    intro b hb
    have hrange := isDigit_iff.mp hb
    refine ⟨show b.toNat < 0x80 by omega, ?_⟩
    rw [upper_digit hb]
    rintro rfl
    exact absurd hb (by decide)
  have hends : ∀ {front digits : Bytes}, Numeral.IsDigits digits → (∀ b ∈ front, b < 0x80) →
      unit? (front ++ digits) = none := by
    intro front digits hdigits hfront
    refine unit?_eq_none (List.forall_mem_append.mpr ⟨hfront, fun b hb => ?_⟩) fun b hb => ?_
    · exact (hdigit b (hdigits.digits b hb)).1
    · rw [List.getLast?_append_of_ne_nil _ hdigits.ne_nil] at hb
      exact (hdigit b (hdigits.digits b (List.mem_of_getLast? hb))).2
  cases h with
  | plain h => exact hends h (show ∀ b ∈ ([] : Bytes), b < 0x80 by decide +kernel)
  | plus h => exact hends h (show ∀ b ∈ [byte '+'], b < 0x80 by decide +kernel)
  | minus h => exact hends h (show ∀ b ∈ [byte '-'], b < 0x80 by decide +kernel)

/-- Other letters than I and S come from one byte. -/
theorem bytes_of_raises {u : TextUnit} {b : UInt8} (h : Fold.Raises u b) (hI : b ≠ byte 'I')
    (hS : b ≠ byte 'S') : ∃ a, u.bytes = [a] ∧ upper a = b := by
  obtain h | ⟨-, rfl⟩ | ⟨-, rfl⟩ := h
  · exact h
  · exact absurd rfl hI
  · exact absurd rfl hS

theorem map_upper_write {us : List TextUnit} {t : Bytes} (h : List.Forall₂ Fold.Raises us t)
    (hI : byte 'I' ∉ t) (hS : byte 'S' ∉ t) : (TextUnit.write us).map upper = t := by
  induction h with
  | nil => rfl
  | cons hu _ ih =>
    rw [List.mem_cons, not_or] at hI hS
    obtain ⟨a, ha, rfl⟩ := bytes_of_raises hu (Ne.symm hI.1) (Ne.symm hS.1)
    rw [TextUnit.write_cons, ha, List.map_append, ih hI.2 hS.2]
    rfl

/-- A unit that is found is spelled at the end, unless an inner letter is left in front of it. The
dotless i is an I in upper case and makes the spelling longer than the unit. -/
theorem unit?_split {s numeral : Bytes} {unit : Nat} (h : unit? s = some (numeral, unit)) :
    (∃ suffix, Spells suffix unit ∧ s = numeral ++ suffix) ∨
      ∃ b ∈ numeral.getLast?, upper b ∈ innerLetters := by
  obtain ⟨⟨name, unit⟩, hfind, hcut⟩ := Option.map_eq_some_iff.mp h
  obtain ⟨rfl, rfl⟩ := Prod.mk.injEq _ _ _ _ ▸ hcut
  have hname := List.mem_of_find?_eq_some hfind
  have hend := List.find?_some hfind
  have hunits : ∀ q ∈ units, (∀ b ∈ utf8 q.1, b < 0x80) ∧ byte 'S' ∉ utf8 q.1 := by
    decide +kernel
  obtain ⟨hascii, hlong⟩ := hunits _ hname
  obtain ⟨front, tail, hread, htail⟩ := Fold.exists_raises hascii (endsWith_iff.mp hend)
  have hs : s = TextUnit.write front ++ TextUnit.write tail := by
    rw [← TextUnit.write_append, ← hread, TextUnit.write_read]
  have hplain : (TextUnit.write tail).map upper = utf8 name →
      ∃ suffix, Spells suffix unit ∧ s = s.take (s.length - (utf8 name).length) ++ suffix := by
    intro hmap
    refine ⟨TextUnit.write tail, spells_iff.mpr ⟨name, hname, hmap⟩, ?_⟩
    rw [hs, ← hmap, List.length_map, List.length_append, Nat.add_sub_cancel, List.take_left]
  by_cases hI : byte 'I' ∈ utf8 name
  · have hforms : ∀ q ∈ units, byte 'I' ∈ utf8 q.1 → ∃ g ∈ innerLetters,
        utf8 q.1 = [g, byte 'I', byte 'B'] ∧ g ≠ byte 'I' ∧ g ≠ byte 'S' := by decide
    obtain ⟨g, hg, hform, hgI, hgS⟩ := hforms _ hname hI
    dsimp only at hform
    rw [hform] at htail hplain ⊢
    obtain ⟨u, us, hu, hus, rfl⟩ := List.forall₂_cons_right_iff.mp htail
    obtain ⟨v, vs, hv, hvs, rfl⟩ := List.forall₂_cons_right_iff.mp hus
    obtain ⟨w, ws, hw, hws, rfl⟩ := List.forall₂_cons_right_iff.mp hvs
    obtain rfl := List.forall₂_nil_right_iff.mp hws
    obtain ⟨a, hua, ha⟩ := bytes_of_raises hu hgI hgS
    obtain ⟨c, hwc, hc⟩ := bytes_of_raises hw (by decide) (by decide)
    obtain ⟨b, hvb, hb⟩ | ⟨rfl, -⟩ | ⟨-, hS⟩ := hv
    · exact .inl (hplain (by simp [hua, hvb, hwc, ha, hb, hc]))
    · -- The dotless i has two bytes, so the cut leaves the letter before it.
      have hbytes : (TextUnit.char '\u0131').bytes = [0xC4, 0xB1] := by decide
      have hcut : s = (TextUnit.write front ++ [a]) ++ [0xC4, 0xB1, c] := by
        rw [hs]
        simp [hua, hbytes, hwc]
      have hleft : s.take (s.length - [g, byte 'I', byte 'B'].length) =
          TextUnit.write front ++ [a] := by
        have hlength : s.length - [g, byte 'I', byte 'B'].length =
            (TextUnit.write front ++ [a]).length := by
          rw [hcut]
          simp
        rw [hlength, hcut, List.take_left]
      rw [hleft]
      exact .inr ⟨a, List.getLast?_concat, by rwa [ha]⟩
    · exact absurd hS (by decide)
  · exact .inl (hplain (map_upper_write htail hI hlong))

end DocPull.Size
