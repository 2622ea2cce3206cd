import DocPull.Json.Reader
import DocPull.Proofs.Text.Unit

/-!
# String literals read back

A text between quotes is written as one escaped piece for each of its units. The reader takes each
piece as it is, so it finds the closing quote where it was put, and a text that is UTF-8 throughout
means itself again.
-/
namespace DocPull.Json

open TextUnit

/-- A piece of a literal that the reader passes on to what follows. -/
def Passes (piece : Bytes) : Prop :=
  ∀ t, literal? (piece ++ t) = (literal? t).map fun p => (piece ++ p.1, p.2)

theorem Passes.nil : Passes [] := by
  intro t
  simp

theorem Passes.append {a b : Bytes} (ha : Passes a) (hb : Passes b) : Passes (a ++ b) := by
  intro t
  rw [List.append_assoc, ha, hb, Option.map_map]
  simp [Function.comp_def]

theorem Passes.flatMap {α : Type} {f : α → Bytes} (h : ∀ a, Passes (f a)) (l : List α) :
    Passes (l.flatMap f) := by
  induction l with
  | nil => exact .nil
  | cons a l ih => exact (h a).append ih

theorem passes_plain {b : UInt8} (hquote : b ≠ byte '"') (hspace : ¬b < 0x20)
    (hslash : b ≠ byte '\\') : Passes [b] := by
  intro t
  rw [List.singleton_append, literal?.eq_def]
  simp only [if_neg hquote, if_neg hspace, if_neg hslash]
  rfl

theorem passes_plains {s : Bytes}
    (h : ∀ b ∈ s, b ≠ byte '"' ∧ ¬b < 0x20 ∧ b ≠ byte '\\') : Passes s := by
  induction s with
  | nil => exact .nil
  | cons b s ih =>
    rw [List.forall_mem_cons] at h
    obtain ⟨⟨hquote, hspace, hslash⟩, hs⟩ := h
    exact (passes_plain hquote hspace hslash).append (ih hs)

theorem passes_letter {e : UInt8} (h : (utf8 "\"\\/bfnrt").contains e = true) :
    Passes [byte '\\', e] := by
  intro t
  have hu : e ≠ byte 'u' := by
    rintro rfl
    revert h
    decide
  rw [List.cons_append, List.singleton_append, literal?.eq_def]
  simp only [if_neg hu, h, if_true]
  rw [if_neg (by decide), if_neg (by decide)]
  rfl

theorem passes_hex {a b c d : UInt8}
    (h : [a, b, c, d].all (fun h => (Bytes.hex? h).isSome) = true) :
    Passes [byte '\\', byte 'u', a, b, c, d] := by
  intro t
  rw [List.cons_append, literal?.eq_def]
  simp only [List.cons_append, List.nil_append, h, if_true]
  rw [if_neg (by decide), if_neg (by decide)]

/-- What a character becomes within a literal: a letter after a backslash, four hexadecimal digits,
or its own encoding. -/
inductive Escapes (c : Char) : Bytes → Prop where
  | letter (e : Char) (hc : letterEscape? e = some c)
      (he : e ∈ ['"', '\\', 'b', 'f', 'n', 'r', 't']) : Escapes c [byte '\\', byte e]
  | hex (h : c.toNat < 0x10000) : Escapes c (text ["\\u", Bytes.hex 4 c.toNat])
  | plain (hquote : c ≠ '"') (hslash : c ≠ '\\') (hspace : 0x20 ≤ c.toNat) :
      Escapes c (String.utf8EncodeChar c)

theorem eq_ofNat {c : Char} {n : Nat} (h : c.toNat = n) : c = Char.ofNat n := by
  rw [← h, Char.ofNat_toNat]

theorem escapes_escapeUnit (c : Char) : Escapes c (escapeUnit (.char c)) := by
  simp only [escapeUnit]
  split
  · exact .letter '"' rfl (by decide)
  · exact .letter '\\' rfl (by decide)
  · exact .letter 'n' rfl (by decide)
  · exact .letter 'r' rfl (by decide)
  · exact .letter 't' rfl (by decide)
  · rename_i hquote hslash _ _ _
    split_ifs with h8 h12 hhex
    · exact .letter 'b' (by rw [eq_ofNat h8]; rfl) (by decide)
    · exact .letter 'f' (by rw [eq_ofNat h12]; rfl) (by decide)
    · refine .hex ?_
      simp only [Bool.or_eq_true, decide_eq_true_eq, beq_iff_eq] at hhex
      obtain ((((h | rfl) | rfl) | rfl) | rfl) | rfl := hhex
      · omega
      all_goals decide
    · simp only [Bool.or_eq_true, decide_eq_true_eq, beq_iff_eq, not_or] at hhex
      exact .plain hquote hslash (by omega)

theorem isSome_hex?_hexDigit {n : Nat} (h : n < 16) :
    (Bytes.hex? (Bytes.hexDigit n)).isSome = true := by
  have hall : ∀ n < 16, (Bytes.hex? (Bytes.hexDigit n)).isSome = true := by decide
  exact hall n h

/-- The four digits of a numeric escape. -/
theorem hex_four (n : Nat) : Bytes.hex 4 n =
    [Bytes.hexDigit (n / 16 / 16 / 16 % 16), Bytes.hexDigit (n / 16 / 16 % 16),
      Bytes.hexDigit (n / 16 % 16), Bytes.hexDigit (n % 16)] := rfl

theorem Escapes.passes {c : Char} {piece : Bytes} (h : Escapes c piece) : Passes piece := by
  cases h with
  | letter e hc he =>
    have hall : ∀ e ∈ ['"', '\\', 'b', 'f', 'n', 'r', 't'],
        (utf8 "\"\\/bfnrt").contains (byte e) = true := by
      simp only [List.forall_mem_cons, List.not_mem_nil, false_imp_iff, implies_true]
      decide
    exact passes_letter (hall e he)
  | hex h =>
    rw [hex_four]
    have hlt : ∀ n, n % 16 < 16 := fun n => Nat.mod_lt n (by decide)
    exact passes_hex (by simp [isSome_hex?_hexDigit, hlt])
  | plain hquote hslash hspace =>
    refine passes_plains fun b hb => ?_
    rcases Nat.lt_or_ge c.toNat 0x80 with hlt | hge
    · rw [encode_ascii hlt, List.mem_singleton] at hb
      have hn := toNat_byte hlt
      have hne : ∀ d : Char, d.toNat < 0x80 → c ≠ d → b ≠ byte d := by
        rintro d hd hcd heq
        rw [hb] at heq
        have hnat := congrArg UInt8.toNat heq
        rw [hn, toNat_byte hd] at hnat
        exact hcd (by rw [eq_ofNat hnat, Char.ofNat_toNat])
      refine ⟨hne '"' (by decide) hquote, ?_, hne '\\' (by decide) hslash⟩
      rw [hb, UInt8.lt_iff_toNat_lt, hn]
      simp only [UInt8.reduceToNat]
      omega
    · have hb := le_of_mem_encode hge hb
      have hne : ∀ d : Char, d.toNat < 0x80 → b ≠ byte d := by
        rintro d hd rfl
        rw [toNat_byte hd] at hb
        omega
      refine ⟨hne '"' (by decide), ?_, hne '\\' (by decide)⟩
      rw [UInt8.lt_iff_toNat_lt]
      simp only [UInt8.reduceToNat]
      omega

theorem hexDigit_char {d : Nat} (h : d < 16) : ∃ x : Char, x.toNat < 0x80 ∧
    Bytes.hexDigit d = byte x ∧ Bytes.hex? (byte x) = some d := by
  have hall : ∀ d < 16, (Char.ofNat (Bytes.hexDigit d).toNat).toNat < 0x80 ∧
      Bytes.hexDigit d = byte (Char.ofNat (Bytes.hexDigit d).toNat) ∧
      Bytes.hex? (byte (Char.ofNat (Bytes.hexDigit d).toNat)) = some d := by decide
  exact ⟨_, hall d h⟩

/-- A numeric escape is read with its digits, whatever follows. -/
theorem read_hex {n : Nat} (h : n < 0x10000) (t : Bytes) :
    ∃ x₁ x₂ x₃ x₄ : Char,
      read (text ["\\u", Bytes.hex 4 n] ++ t) = .char '\\' :: .char 'u' :: .char x₁ ::
        .char x₂ :: .char x₃ :: .char x₄ :: read t ∧
      ∀ us, hexUnit? (.char '\\' :: .char 'u' :: .char x₁ :: .char x₂ :: .char x₃ :: .char x₄ ::
        us) = some n := by
  have hlt : ∀ m, m % 16 < 16 := fun m => Nat.mod_lt m (by decide)
  obtain ⟨x₁, ha₁, hx₁, hd₁⟩ := hexDigit_char (hlt (n / 16 / 16 / 16))
  obtain ⟨x₂, ha₂, hx₂, hd₂⟩ := hexDigit_char (hlt (n / 16 / 16))
  obtain ⟨x₃, ha₃, hx₃, hd₃⟩ := hexDigit_char (hlt (n / 16))
  obtain ⟨x₄, ha₄, hx₄, hd₄⟩ := hexDigit_char (hlt n)
  refine ⟨x₁, x₂, x₃, x₄, ?_, ?_⟩
  · have hmark : utf8 "\\u" = [byte '\\', byte 'u'] := by decide
    simp only [hex_four, hx₁, hx₂, hx₃, hx₄, hmark, text_cons, text_nil, List.append_nil,
      List.cons_append, List.nil_append]
    rw [read_byte (by decide), read_byte (by decide), read_byte ha₁, read_byte ha₂, read_byte ha₃,
      read_byte ha₄]
  · intro us
    simp only [hexUnit?, ha₁, ha₂, ha₃, ha₄, if_true, hd₁, hd₂, hd₃, hd₄, Option.bind_eq_bind,
      Option.bind_some, Option.pure_def, Option.some.injEq]
    omega

/-- An escaped character means itself, whatever follows. -/
theorem Escapes.unquote {c : Char} {piece : Bytes} (h : Escapes c piece) (t : Bytes) :
    Json.unquote (piece ++ t) = String.utf8EncodeChar c ++ Json.unquote t := by
  rw [Json.unquote]
  cases h with
  | letter e hc he =>
    have hascii : ∀ e ∈ ['"', '\\', 'b', 'f', 'n', 'r', 't'], e.toNat < 0x80 ∧ e ≠ 'u' := by
      simp only [List.forall_mem_cons, List.not_mem_nil, false_imp_iff, implies_true]
      decide
    obtain ⟨ha, hu⟩ := hascii e he
    rw [List.cons_append, List.singleton_append, read_byte (by decide), read_byte ha]
    have hnone : hexUnit? (.char '\\' :: .char e :: read t) = none := by
      rw [hexUnit?.eq_def]
      split
      · rename_i heq
        simp only [List.cons.injEq, TextUnit.char.injEq] at heq
        exact absurd heq.2.1 hu
      · rfl
    simp only [unquoteFrom, front, hnone, hc, Option.getD_some]
    rfl
  | hex h =>
    obtain ⟨x₁, x₂, x₃, x₄, hread, hunit⟩ := read_hex h t
    have hvalid : c.toNat < 0xD800 ∨ 0xDFFF < c.toNat ∧ c.toNat < 0x110000 := c.valid
    have hhigh : isHigh c.toNat = false := by
      simp only [isHigh, Bool.and_eq_false_iff, decide_eq_false_iff_not]
      omega
    have hlow : isLow c.toNat = false := by
      simp only [isLow, Bool.and_eq_false_iff, decide_eq_false_iff_not]
      omega
    have hfront : ∀ us, front (.char '\\') (.char 'u' :: .char x₁ :: .char x₂ :: .char x₃ ::
        .char x₄ :: us) = (c, 5) := by
      intro us
      simp only [front, hunit, hhigh, hlow, Bool.false_and, Bool.or_self, Bool.false_eq_true,
        if_false, Char.ofNat_toNat]
      split <;> rfl
    rw [hread, unquoteFrom, hfront]
    rfl
  | plain hquote hslash hspace =>
    have hfront : front (.char c) (read t) = (c, 0) := by
      rw [front.eq_def]
      split
      · rename_i heq
        exact absurd (TextUnit.char.inj heq) hslash
      · rfl
    rw [read_encode_append, unquoteFrom, hfront]
    rfl

/-- A stray byte becomes the character that it is shown as. -/
theorem escapes_unit (u : TextUnit) : Escapes u.shown (escapeUnit u) := by
  cases u with
  | char c => exact escapes_escapeUnit c
  | stray b =>
    have hplain : Escapes '\ufffd' (String.utf8EncodeChar '\ufffd') :=
      .plain (by decide) (by decide) (by decide)
    exact hplain

/-- The literal of a text ends where its closing quote was put. -/
theorem literal?_quote (s t : Bytes) :
    literal? (quote s ++ byte '"' :: t) = some (quote s, t) := by
  rw [quote, Passes.flatMap fun u => (escapes_unit u).passes, literal?.eq_def]
  simp

/-- The literal of a text means the text with every stray byte replaced. -/
theorem unquote_quote_eq_repair (s : Bytes) : unquote (quote s) = TextUnit.repair s := by
  rw [quote, TextUnit.repair]
  induction read s with
  | nil => rfl
  | cons u us ih => rw [List.flatMap_cons, (escapes_unit u).unquote, ih, List.flatMap_cons]

/-- A text that is UTF-8 throughout is what its literal means. -/
theorem unquote_quote {s : Bytes} (h : TextUnit.valid s = true) : unquote (quote s) = s := by
  obtain ⟨cs, rfl, hread⟩ := exists_chars_of_valid h
  rw [unquote_quote_eq_repair, TextUnit.repair, hread, List.flatMap_map]
  rfl

theorem unquote_quote_ne_nil {s : Bytes} (h : s ≠ []) : unquote (quote s) ≠ [] := by
  have hunits : read s ≠ [] := by
    intro hread
    apply h
    rw [← write_read s, hread]
    rfl
  obtain ⟨u, us, hus⟩ := List.exists_cons_of_ne_nil hunits
  have hlength : 0 < (String.utf8EncodeChar u.shown).length := by
    rw [String.length_utf8EncodeChar]
    exact u.shown.utf8Size_pos
  rw [unquote_quote_eq_repair, TextUnit.repair, hus, List.flatMap_cons]
  exact List.append_ne_nil_of_left_ne_nil (List.length_pos_iff.mp hlength) _

/-- What a literal means is UTF-8 throughout. -/
theorem valid_unquote (literal : Bytes) : TextUnit.valid (unquote literal) = true := by
  have hfrom : ∀ us skip, TextUnit.valid (unquoteFrom skip us) = true := by
    intro us
    induction us with
    | nil =>
      intro skip
      cases skip <;> rfl
    | cons u us ih =>
      intro skip
      cases skip with
      | succ skip => exact ih skip
      | zero =>
        rw [unquoteFrom, valid_encode_append]
        exact ih _
  exact hfrom _ 0

end DocPull.Json
