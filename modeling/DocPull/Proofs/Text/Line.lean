import DocPull.Text.Quoted
import DocPull.Proofs.Number.Decimal
import DocPull.Proofs.Text.Unit

/-!
# Messages on lines of their own

Foreign text is shown between quotes, and no escape inside them holds a line end. So a message that
shows all foreign text in this way is one line, and several such messages on lines of their own can
be told apart again.
-/
namespace DocPull

/-- A text without a line end. -/
def OneLine (s : Bytes) : Prop := byte '\n' ∉ s

namespace OneLine

variable {s t : Bytes}

instance : Decidable (OneLine s) := inferInstanceAs (Decidable (byte '\n' ∉ s))

@[simp] theorem nil : OneLine [] := List.not_mem_nil

@[simp] theorem append_iff : OneLine (s ++ t) ↔ OneLine s ∧ OneLine t := by
  simp [OneLine]

/-- No byte of a text without control characters is a line end. -/
theorem of_le (h : ∀ b ∈ s, 0x20 ≤ b) : OneLine s := fun hmem => absurd (h _ hmem) (by decide)

theorem flatMap {α : Type} {f : α → Bytes} {l : List α} (h : ∀ a ∈ l, OneLine (f a)) :
    OneLine (l.flatMap f) := by
  intro hmem
  obtain ⟨a, ha, hline⟩ := List.mem_flatMap.mp hmem
  exact h a ha hline

end OneLine

namespace Bytes

theorem le_hexDigit {n : Nat} (h : n < 16) : 0x20 ≤ hexDigit n := by
  have hall : ∀ n < 16, 0x20 ≤ hexDigit n := by decide
  exact hall n h

theorem oneLine_hex (width n : Nat) : OneLine (hex width n) := by
  induction width generalizing n with
  | zero => exact .nil
  | succ w ih =>
    rw [hex, OneLine.append_iff]
    refine ⟨ih _, .of_le fun b hb => ?_⟩
    rw [List.mem_singleton.mp hb]
    exact le_hexDigit (Nat.mod_lt n (by decide))

theorem oneLine_digits {s : Bytes} (h : ∀ b ∈ s, isDigit b = true) : OneLine s := by
  intro hmem
  exact absurd (h _ hmem) (by decide)

theorem oneLine_decimal (n : Nat) : OneLine (decimal n) :=
  oneLine_digits fun _ hb => isDigit_of_mem_decimal hb

theorem oneLine_padded (w n : Nat) : OneLine (padded w n) :=
  oneLine_digits fun _ hb => isDigit_of_mem_padded hb

theorem oneLine_trimEnd {b : UInt8} {s : Bytes} (h : OneLine s) : OneLine (trimEnd b s) := by
  intro hmem
  exact h (List.mem_reverse.mp ((List.dropWhile_sublist _).subset (List.mem_reverse.mp hmem)))

section Split

variable {sep : UInt8}

theorem split_go_append (part a b : Bytes) :
    split.go sep part (a ++ sep :: b) = split.go sep part a ++ split sep b := by
  induction a generalizing part with
  | nil => simp [split.go, split]
  | cons x a ih =>
    by_cases hx : x = sep
    · simp [split.go, hx, ih]
    · simp [split.go, hx, ih]

theorem split_append (a b : Bytes) : split sep (a ++ sep :: b) = split sep a ++ split sep b :=
  split_go_append [] a b

theorem split_go_of_not_mem (part : Bytes) {s : Bytes} (h : sep ∉ s) :
    split.go sep part s = [part.reverse ++ s] := by
  induction s generalizing part with
  | nil => simp [split.go]
  | cons x s ih =>
    simp only [List.mem_cons, not_or] at h
    simp [split.go, Ne.symm h.1, ih _ h.2]

theorem split_of_not_mem {s : Bytes} (h : sep ∉ s) : split sep s = [s] :=
  split_go_of_not_mem [] h

theorem not_mem_of_mem_split_go {part s c : Bytes} (hpart : sep ∉ part)
    (h : c ∈ split.go sep part s) : sep ∉ c := by
  induction s generalizing part with
  | nil =>
    simp only [split.go, List.mem_singleton] at h
    simpa [h] using hpart
  | cons x s ih =>
    rw [split.go] at h
    split_ifs at h with hx
    · rcases List.mem_cons.mp h with rfl | h
      · simpa using hpart
      · exact ih (by simp) h
    · exact ih (by simp [hpart, Ne.symm hx]) h

theorem not_mem_of_mem_split {s c : Bytes} (h : c ∈ split sep s) : sep ∉ c :=
  not_mem_of_mem_split_go (by simp) h

theorem join_cons_cons (part part' : Bytes) (parts : List Bytes) :
    join [sep] (part :: part' :: parts) =
      part ++ sep :: join [sep] (part' :: parts) := by
  simp [join, List.intercalate]

/-- Parts without the separator come back when they are joined by it and split again. -/
theorem split_join {parts : List Bytes} (hne : parts ≠ []) (h : ∀ p ∈ parts, sep ∉ p) :
    split sep (join [sep] parts) = parts := by
  induction parts with
  | nil => exact absurd rfl hne
  | cons p parts ih =>
    have hp : split sep p = [p] := split_of_not_mem (h p List.mem_cons_self)
    cases parts with
    | nil => simpa [join] using hp
    | cons p' parts =>
      have hrest := ih (List.cons_ne_nil _ _) fun r hr => h r (List.mem_cons_of_mem p hr)
      rw [join_cons_cons, split_append, hp, hrest, List.singleton_append]

theorem mem_join {parts : List Bytes} {b : UInt8} (h : b ∈ join [sep] parts) :
    b = sep ∨ ∃ part ∈ parts, b ∈ part := by
  induction parts with
  | nil => simp [join] at h
  | cons part parts ih =>
    cases parts with
    | nil =>
      refine .inr ⟨part, List.mem_cons_self, ?_⟩
      simpa [join] using h
    | cons part' parts =>
      rw [join_cons_cons, List.mem_append, List.mem_cons] at h
      rcases h with hpart | rfl | hrest
      · exact .inr ⟨part, List.mem_cons_self, hpart⟩
      · exact .inl rfl
      · refine (ih hrest).imp_right ?_
        rintro ⟨other, hother, hb⟩
        exact ⟨other, List.mem_cons_of_mem part hother, hb⟩

/-- The separators of joined parts are the ones between them. -/
theorem count_join {parts : List Bytes} (h : ∀ part ∈ parts, sep ∉ part) :
    (join [sep] parts).count sep = parts.length - 1 := by
  induction parts with
  | nil => rfl
  | cons part parts ih =>
    obtain ⟨hpart, hparts⟩ := List.forall_mem_cons.mp h
    have hzero : part.count sep = 0 := List.count_eq_zero.mpr hpart
    cases parts with
    | nil => simpa [join] using hzero
    | cons part' parts =>
      rw [join_cons_cons, List.count_append, List.count_cons_self, ih hparts, hzero]
      simp

end Split

end Bytes

namespace Quoted

theorem isPrintable_lineEnd : Printable.isPrintable '\n' = false := by decide +kernel

theorem oneLine_encode {c : Char} (h : c ≠ '\n') : OneLine (String.utf8EncodeChar c) := by
  intro hmem
  by_cases hascii : c.toNat < 0x80
  · rw [TextUnit.encode_ascii hascii, List.mem_singleton] at hmem
    have hnat : c.toNat = 10 := by
      rw [← TextUnit.toNat_byte hascii, ← hmem]
      rfl
    exact h (Char.toNat_inj.mp hnat)
  · exact absurd (TextUnit.le_of_mem_encode (not_lt.mp hascii) hmem) (by decide)

theorem oneLine_letter {c l : Char} (h : letter? c = some l) : OneLine [byte '\\', byte l] := by
  unfold letter? at h
  split at h <;> cases h <;> decide

/-- No escape inside quotes holds a line end. -/
theorem oneLine_escape (u : TextUnit) : OneLine (escape '"' u) := by
  have hx : OneLine (utf8 "\\x") := by decide
  have hu : OneLine (utf8 "\\u") := by decide
  have hU : OneLine (utf8 "\\U") := by decide
  cases u with
  | stray b => simp [escape, hx, Bytes.oneLine_hex]
  | char c =>
    rw [escape]
    by_cases hquote : c = '"' ∨ c = '\\'
    · rw [if_pos hquote]
      rcases hquote with rfl | rfl <;> decide
    rw [if_neg hquote]
    by_cases hprint : Printable.isPrintable c = true
    · rw [if_pos hprint]
      refine oneLine_encode ?_
      rintro rfl
      rw [isPrintable_lineEnd] at hprint
      cases hprint
    rw [if_neg hprint]
    cases hletter : letter? c with
    | some l => exact oneLine_letter hletter
    | none =>
      dsimp only
      split_ifs
      · simp [hx, Bytes.oneLine_hex]
      · simp [hu, Bytes.oneLine_hex]
      · simp [hU, Bytes.oneLine_hex]

/-- Quoted text is one line, whatever the text. -/
theorem oneLine_quote (s : Bytes) : OneLine (quote s) := by
  have hmark : OneLine [byte '"'] := by decide
  have hbody : OneLine ((TextUnit.read s).flatMap (escape '"')) :=
    .flatMap fun u _ => oneLine_escape u
  exact OneLine.append_iff.mpr ⟨OneLine.append_iff.mpr ⟨hmark, hbody⟩, hmark⟩

end Quoted

end DocPull
