import DocPull.Proofs.Bytes
import DocPull.Url.Escape
import Mathlib.Tactic

/-!
# Escapes read back

Where any byte may be escaped, an escaped text stands for the text it was made of. What escaping
writes is made of letters, digits and a few marks, so it holds none of the signs that divide a URL.
-/
namespace DocPull.Url

/-- Whether any byte may be escaped in a part. -/
def Part.EscapesAll (part : Part) : Prop := part ≠ .host ∧ part ≠ .zone

theorem mayEscape_of_escapesAll {part : Part} (h : part.EscapesAll) (value : Nat) :
    mayEscape part value = true := by
  obtain ⟨hhost, hzone⟩ := h
  cases part <;> first | rfl | contradiction

theorem mayStand_of_escapesAll {part : Part} (h : part.EscapesAll) (b : UInt8) :
    mayStand part b = true := by
  obtain ⟨hhost, hzone⟩ := h
  cases part <;> first | rfl | contradiction

theorem hex?_hexUpper {n : Nat} (h : n < 16) : Bytes.hex? (hexUpper n) = some n := by
  have hall : ∀ n < 16, Bytes.hex? (hexUpper n) = some n := by decide
  exact hall n h

theorem unescape_percent {part : Part} (h : part.EscapesAll) (b : UInt8) (rest : Bytes) :
    unescape part (percent b ++ rest) = (unescape part rest).map (b :: ·) := by
  have hlt := b.toNat_lt
  have hvalue : 16 * (b.toNat / 16) + b.toNat % 16 = b.toNat := Nat.div_add_mod _ _
  have hbyte : (b.toNat).toUInt8 = b := UInt8.ofNat_toNat
  simp only [percent, List.cons_append, List.nil_append]
  rw [unescape, if_pos rfl]
  simp only [hex?_hexUpper (show b.toNat / 16 < 16 by omega),
    hex?_hexUpper (show b.toNat % 16 < 16 by omega), hvalue, hbyte, mayEscape_of_escapesAll h,
    if_true]

theorem unescape_plain {part : Part} (h : part.EscapesAll) {b : UInt8} (hb : b ≠ byte '%')
    (rest : Bytes) :
    unescape part (b :: rest) = (unescape part rest).map (standsFor part b :: ·) := by
  rw [unescape.eq_def]
  simp only [if_neg hb, if_pos (mayStand_of_escapesAll h b)]

/-- A byte that is written as it is stands for itself. -/
theorem standsFor_of_isPlain {part : Part} {b : UInt8} (h : isPlain part b = true) :
    b ≠ byte '%' ∧ standsFor part b = b := by
  have hall : ∀ b, isPlain part b = true → b ≠ byte '%' ∧ standsFor part b = b :=
    Bytes.forall_byte (by cases part <;> decide +kernel)
  exact hall b h

theorem unescape_escapeByte {part : Part} (h : part.EscapesAll) (b : UInt8) (rest : Bytes) :
    unescape part (escapeByte part b ++ rest) = (unescape part rest).map (b :: ·) := by
  unfold escapeByte
  split_ifs with hplain hspace
  · obtain ⟨hpercent, hstands⟩ := standsFor_of_isPlain hplain
    rw [List.singleton_append, unescape_plain h hpercent, hstands]
  · obtain ⟨rfl, rfl⟩ := hspace
    rw [List.singleton_append, unescape_plain h (by decide)]
    rfl
  · exact unescape_percent h b rest

/-- An escaped text stands for the text it was made of. -/
theorem unescape_escape {part : Part} (h : part.EscapesAll) (s : Bytes) :
    unescape part (escape part s) = .ok s := by
  induction s with
  | nil => rw [escape, List.flatMap_nil, unescape]
  | cons b s ih =>
    rw [escape, List.flatMap_cons, unescape_escapeByte h]
    rw [escape] at ih
    rw [ih]
    rfl

/-- Whether a byte is written in an escaped query: a byte that needs no escape, or a sign of the
escapes. -/
def isQueryByte (b : UInt8) : Bool := isUnreserved b || b == byte '%' || b == byte '+'

theorem isQueryByte_hexUpper {n : Nat} (h : n < 16) : isQueryByte (hexUpper n) = true := by
  have hall : ∀ n < 16, isQueryByte (hexUpper n) = true := by decide
  exact hall n h

theorem isQueryByte_of_mem_escape {s : Bytes} {b : UInt8} (h : b ∈ escape .query s) :
    isQueryByte b = true := by
  obtain ⟨c, -, hb⟩ := List.mem_flatMap.mp h
  unfold escapeByte at hb
  have hlt := c.toNat_lt
  split_ifs at hb with hplain hspace
  · have hunreserved : isUnreserved c = true := by simpa [isPlain] using hplain
    rw [List.mem_singleton.mp hb, isQueryByte, hunreserved]
    rfl
  · rw [List.mem_singleton.mp hb]
    decide
  · simp only [percent, List.mem_cons, List.not_mem_nil, or_false] at hb
    obtain rfl | rfl | rfl := hb
    · decide
    · exact isQueryByte_hexUpper (by omega)
    · exact isQueryByte_hexUpper (by omega)

end DocPull.Url
