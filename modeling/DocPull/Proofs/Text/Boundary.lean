import DocPull.Proofs.Text.Unit

/-!
# Texts that meet at an ASCII byte

No character goes on with an ASCII byte. So wherever a text goes on with one, what was read before
it stays as it is, even where this ends in the middle of a character. Spaces in particular can be
put after any text and are read as so many characters.
-/
namespace DocPull.TextUnit

theorem tail?_ascii {b : UInt8} (h : b < 0x80) : tail? b = none := by
  have hall : ∀ b : UInt8, b < 0x80 → tail? b = none := Bytes.forall_byte (by decide +kernel)
  exact hall b h

/-- A text that begins with an ASCII byte adds nothing to a character. -/
theorem lead?_append (a : UInt8) (s : Bytes) {t : Bytes} (ht : ∀ b ∈ t.head?, b < 0x80) :
    lead? a (s ++ t) = lead? a s := by
  cases t with
  | nil => rw [List.append_nil]
  | cons b t =>
    have hb : tail? b = none := tail?_ascii (ht b rfl)
    unfold lead?
    rcases s with _ | ⟨b₁, _ | ⟨b₂, _ | ⟨b₃, s⟩⟩⟩
    · rcases t with _ | ⟨b₁, _ | ⟨b₂, t⟩⟩ <;> simp [hb]
    · rcases t with _ | ⟨b₂, t⟩ <;> simp [hb]
    · simp [hb]
    · rfl

theorem readFrom_append {s t : Bytes} (ht : ∀ b ∈ t.head?, b < 0x80) {skip : Nat}
    (hskip : skip ≤ s.length) : readFrom skip (s ++ t) = readFrom skip s ++ read t := by
  induction s generalizing skip with
  | nil =>
    obtain rfl := Nat.le_zero.mp hskip
    rfl
  | cons a s ih =>
    cases skip with
    | succ skip => exact ih (Nat.le_of_succ_le_succ hskip)
    | zero =>
      rw [List.cons_append, readFrom, readFrom, lead?_append a s ht]
      cases hlead : lead? a s with
      | none =>
        dsimp only
        rw [ih (Nat.zero_le _), List.cons_append]
      | some r =>
        dsimp only
        rw [ih (encode_of_lead? hlead).2, List.cons_append]

/-- Any text is read before one that begins with an ASCII byte. -/
theorem read_append_ascii (s : Bytes) {t : Bytes} (ht : ∀ b ∈ t.head?, b < 0x80) :
    read (s ++ t) = read s ++ read t :=
  readFrom_append ht (Nat.zero_le _)

theorem read_spaces_append (n : Nat) (t : Bytes) :
    read (List.replicate n (byte ' ') ++ t) = List.replicate n (.char ' ') ++ read t := by
  induction n with
  | zero => rfl
  | succ n ih =>
    rw [List.replicate_succ, List.cons_append, read_byte (by decide), ih]
    rfl

/-- Spaces after a text part it from what follows them. -/
theorem read_append_spaces (s : Bytes) {n : Nat} {t : Bytes} (ht : n = 0 → t = []) :
    read (s ++ List.replicate n (byte ' ') ++ t) =
      read s ++ List.replicate n (.char ' ') ++ read t := by
  rw [List.append_assoc, read_append_ascii, read_spaces_append, List.append_assoc]
  cases n with
  | zero =>
    rw [ht rfl]
    exact nofun
  | succ n =>
    rintro b hb
    obtain rfl : byte ' ' = b := Option.some.inj hb
    decide

theorem length_readFrom_le (skip : Nat) (s : Bytes) : (readFrom skip s).length ≤ s.length := by
  induction s generalizing skip with
  | nil => simp [readFrom]
  | cons b s ih =>
    cases skip with
    | succ skip => exact (ih skip).trans (Nat.le_succ _)
    | zero =>
      rw [readFrom]
      cases lead? b s with
      | none => exact Nat.succ_le_succ (ih 0)
      | some r => exact Nat.succ_le_succ (ih r.2)

/-- A text has no more characters than bytes. -/
theorem count_le_length (s : Bytes) : count s ≤ s.length := length_readFrom_le 0 s

end DocPull.TextUnit
