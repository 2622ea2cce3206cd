import DocPull.Proofs.Json.Quoted
import DocPull.Proofs.Number.Decimal

/-!
# Documents read back

A document that is written over several lines is read back as it was, when its literals are
literals, its names are UTF-8, and it does not nest too deeply. The reader's fuel is bounded by the
length of what is written.
-/
namespace DocPull.Json

open Bytes

/-- What may follow a number. -/
def Stops (t : Bytes) : Prop :=
  ∀ b ∈ t.head?, isDigit b = false ∧ b ≠ byte '.' ∧ lower b ≠ byte 'e'

/-- A number literal, recognized whatever may follow it. -/
structure IsNumber (l : Bytes) : Prop where
  first : ∃ b s, l = b :: s ∧ (b = byte '-' ∨ isDigit b = true)
  read : ∀ t, Stops t → number? (l ++ t) = some (l, t)

/-- A string literal, recognized up to the quote behind it. -/
def IsLiteral (l : Bytes) : Prop := ∀ t, literal? (l ++ byte '"' :: t) = some (l, t)

mutual

/-- Whether a document can be written and read back, at a depth. -/
def Readable (depth : Nat) : Json → Prop
  | .null => True
  | .bool _ => True
  | .number l => IsNumber l
  | .string l => IsLiteral l
  | .array items => depth < maxDepth ∧ ReadableItems (depth + 1) items
  | .object members => depth < maxDepth ∧ ReadableMembers (depth + 1) members

/-- Whether all items can be written and read back. -/
def ReadableItems (depth : Nat) : List Json → Prop
  | [] => True
  | j :: js => Readable depth j ∧ ReadableItems depth js

/-- Whether all members can be written and read back. -/
def ReadableMembers (depth : Nat) : List (Bytes × Json) → Prop
  | [] => True
  | (name, j) :: ms =>
    TextUnit.valid name = true ∧ Readable depth j ∧ ReadableMembers depth ms

end

theorem after?_append (s t : Bytes) : after? s (s ++ t) = some t := by
  induction s with
  | nil => cases t <;> rfl
  | cons b s ih => simp [after?, ih]

theorem skipSpace_of_not {b : UInt8} (h : isSpace b = false) (t : Bytes) :
    skipSpace (b :: t) = b :: t := by
  simp [skipSpace, h]

theorem skipSpace_indent (depth : Nat) (t : Bytes) :
    skipSpace (indent depth ++ t) = skipSpace t := by
  have hall : ∀ b ∈ indent depth, isSpace b = true := by
    intro b hb
    rw [indent, List.mem_cons, List.mem_replicate] at hb
    obtain rfl | ⟨-, rfl⟩ := hb <;> decide
  exact List.dropWhile_append_of_pos hall

theorem stops_indent (depth : Nat) (t : Bytes) : Stops (indent depth ++ t) := by
  rintro b ⟨⟩
  decide

theorem stops_cons {b : UInt8} (h : isDigit b = false ∧ b ≠ byte '.' ∧ lower b ≠ byte 'e')
    (t : Bytes) : Stops (b :: t) := by
  rintro c ⟨⟩
  exact h

theorem printAt_string (d : Nat) (l : Bytes) :
    printAt d (.string l) = byte '"' :: (l ++ [byte '"']) := by
  rw [printAt]
  simp only [text_cons, text_nil, List.append_nil]
  rfl

theorem printAt_array (d : Nat) (item : Json) (items : List Json) :
    printAt d (.array (item :: items)) = byte '[' :: (indent (d + 1) ++ (printAt (d + 1) item ++
      (printItems (d + 1) items ++ (indent d ++ [byte ']'])))) := by
  rw [printAt]
  simp only [text_cons, text_nil, List.append_nil]
  rfl

theorem printItems_cons (d : Nat) (item : Json) (items : List Json) :
    printItems d (item :: items) =
      byte ',' :: (indent d ++ (printAt d item ++ printItems d items)) := by
  rw [printItems]
  simp only [text_cons, text_nil, List.append_nil]
  rfl

/-- A member with what follows the space before its value. -/
def memberOf (name s : Bytes) : Bytes :=
  byte '"' :: (quote name ++ byte '"' :: byte ':' :: byte ' ' :: s)

theorem printAt_object (d : Nat) (name : Bytes) (value : Json) (members : List (Bytes × Json)) :
    printAt d (.object ((name, value) :: members)) = byte '\x7b' :: (indent (d + 1) ++
      memberOf name (printAt (d + 1) value ++ (printMembers (d + 1) members ++
        (indent d ++ [byte '\x7d'])))) := by
  rw [printAt]
  simp only [text_cons, text_nil, List.append_nil]
  rfl

theorem printMembers_cons (d : Nat) (name : Bytes) (value : Json) (members : List (Bytes × Json)) :
    printMembers d ((name, value) :: members) = byte ',' :: (indent d ++
      memberOf name (printAt d value ++ printMembers d members)) := by
  rw [printMembers]
  simp only [text_cons, text_nil, List.append_nil]
  rfl

/-- The first byte that is written for a document is neither white space nor a bracket that closes
a list. -/
theorem printAt_first {depth : Nat} (d : Nat) {j : Json} (h : Readable depth j) :
    ∃ b s, printAt d j = b :: s ∧ isSpace b = false ∧ b ≠ byte ']' := by
  cases j with
  | null => exact ⟨byte 'n', utf8 "ull", by rw [printAt]; rfl, by decide, by decide⟩
  | bool b =>
    cases b with
    | true => exact ⟨byte 't', utf8 "rue", by rw [printAt]; rfl, by decide, by decide⟩
    | false => exact ⟨byte 'f', utf8 "alse", by rw [printAt]; rfl, by decide, by decide⟩
  | number l =>
    rw [Readable] at h
    obtain ⟨b, s, rfl, hb⟩ := h.first
    refine ⟨b, s, by rw [printAt], ?_⟩
    have hall : ∀ b, b = byte '-' ∨ isDigit b = true → isSpace b = false ∧ b ≠ byte ']' :=
      forall_byte (by decide +kernel)
    exact hall b hb
  | string l => exact ⟨_, _, printAt_string d l, by decide, by decide⟩
  | array items =>
    cases items with
    | nil => exact ⟨byte '[', utf8 "]", by rw [printAt]; rfl, by decide, by decide⟩
    | cons item items => exact ⟨_, _, printAt_array d item items, by decide, by decide⟩
  | object members =>
    cases members with
    | nil => exact ⟨byte '\x7b', utf8 "\x7d", by rw [printAt]; rfl, by decide, by decide⟩
    | cons member members =>
      exact ⟨_, _, printAt_object d member.1 member.2 members, by decide, by decide⟩

/-- The documents that are written as words. -/
inductive IsWord : Bytes → Json → Prop
  | null : IsWord (utf8 "null") .null
  | true : IsWord (utf8 "true") (.bool true)
  | false : IsWord (utf8 "false") (.bool false)

theorem value?_word {w : Bytes} {j : Json} (h : IsWord w j) (fuel depth : Nat) (t : Bytes) :
    value? (fuel + 1) depth (w ++ t) = some (j, t) := by
  have hafter := after?_append w t
  -- No other document begins with the first letter of a word.
  obtain ⟨b, s, hw, hquote, hbracket, hbrace, hnumber⟩ : ∃ b s, w = b :: s ∧ b ≠ byte '"' ∧
      b ≠ byte '[' ∧ b ≠ byte '\x7b' ∧ ¬(b = byte '-' ∨ isDigit b = true) := by
    cases h <;> exact ⟨_, _, rfl, by decide⟩
  rw [hw, List.cons_append, value?, if_neg hquote, if_neg hbracket, if_neg hbrace, if_neg hnumber,
    ← List.cons_append, ← hw]
  cases h with
  | null => rw [hafter]
  | true => rw [show after? "null" (utf8 "true" ++ t) = none from rfl, hafter]
  | false =>
    rw [show after? "null" (utf8 "false" ++ t) = none from rfl,
      show after? "true" (utf8 "false" ++ t) = none from rfl, hafter]

theorem value?_number {l : Bytes} (h : IsNumber l) (fuel depth : Nat) {t : Bytes} (ht : Stops t) :
    value? (fuel + 1) depth (l ++ t) = some (.number l, t) := by
  obtain ⟨b, s, rfl, hb⟩ := h.first
  have hall : ∀ b, b = byte '-' ∨ isDigit b = true →
      b ≠ byte '"' ∧ b ≠ byte '[' ∧ b ≠ byte '\x7b' := forall_byte (by decide +kernel)
  obtain ⟨hquote, hbracket, hbrace⟩ := hall b hb
  have hread := h.read t ht
  rw [List.cons_append] at hread ⊢
  rw [value?, if_neg hquote, if_neg hbracket, if_neg hbrace, if_pos hb, hread]
  rfl

theorem value?_string {l : Bytes} (h : IsLiteral l) (fuel depth : Nat) (t : Bytes) :
    value? (fuel + 1) depth (byte '"' :: (l ++ byte '"' :: t)) = some (.string l, t) := by
  rw [value?, if_pos rfl, h]
  rfl

theorem value?_array {fuel depth : Nat} {s more t : Bytes} {c : UInt8} {items : List Json}
    (hd : depth < maxDepth) (hs : skipSpace s = c :: more) (hc : c ≠ byte ']')
    (hi : items? fuel (depth + 1) (c :: more) = some (items, t)) :
    value? (fuel + 1) depth (byte '[' :: s) = some (.array items, t) := by
  rw [value?, if_neg (by decide), if_pos rfl, if_neg (by omega), hs]
  simp only [if_neg hc, hi]
  rfl

theorem value?_object {fuel depth : Nat} {s more t : Bytes} {members : List (Bytes × Json)}
    (hd : depth < maxDepth) (hs : skipSpace s = byte '"' :: more)
    (hm : members? fuel (depth + 1) (byte '"' :: more) = some (members, t)) :
    value? (fuel + 1) depth (byte '\x7b' :: s) = some (.object members, t) := by
  rw [value?, if_neg (by decide), if_neg (by decide), if_pos rfl, if_neg (by omega), hs]
  simp only [hm]
  rw [if_neg (by decide)]
  rfl

/-- What stands behind an entry of a list: the byte that closes the list, or a comma and what is
read as the entries to come. -/
inductive Follows {α : Type} (close : UInt8) (read : Bytes → Option (List α × Bytes))
    (rest : Bytes) : List α → Bytes → Prop
  | last {t : Bytes} (hs : skipSpace rest = close :: t) : Follows close read rest [] t
  | more {more t : Bytes} {entries : List α} (hs : skipSpace rest = byte ',' :: more)
      (hread : read (skipSpace more) = some (entries, t)) : Follows close read rest entries t

theorem items?_cons {fuel depth : Nat} {s rest t : Bytes} {item : Json} {items : List Json}
    (hv : value? fuel depth s = some (item, rest))
    (h : Follows (byte ']') (items? fuel depth) rest items t) :
    items? (fuel + 1) depth s = some (item :: items, t) := by
  rw [items?, hv]
  cases h with
  | last hs => simp [hs]
  | more hs hread => simp [hs, hread, show byte ',' ≠ byte ']' by decide]

theorem members?_cons {fuel depth : Nat} {name s rest t : Bytes} {value : Json}
    {members : List (Bytes × Json)} (hn : TextUnit.valid name = true) (hs : skipSpace s = s)
    (hv : value? fuel depth s = some (value, rest))
    (h : Follows (byte '\x7d') (members? fuel depth) rest members t) :
    members? (fuel + 1) depth (memberOf name s) = some ((name, value) :: members, t) := by
  have hcolon := skipSpace_of_not (show isSpace (byte ':') = false by decide)
  have hspace : skipSpace (byte ' ' :: s) = s := hs
  rw [memberOf, members?, if_neg (by decide), literal?_quote]
  cases h with
  | last hr => simp [hcolon, hspace, hv, hr, unquote_quote hn]
  | more hr hread =>
    simp [hcolon, hspace, hv, hr, hread, unquote_quote hn, show byte ',' ≠ byte '\x7d' by decide]

theorem skipSpace_printAt {depth : Nat} (d : Nat) {j : Json} (h : Readable depth j) (t : Bytes) :
    skipSpace (printAt d j ++ t) = printAt d j ++ t := by
  obtain ⟨b, s, hb, hspace, -⟩ := printAt_first d h
  rw [hb, List.cons_append, skipSpace_of_not hspace]

theorem memberOf_append (name s t : Bytes) : memberOf name s ++ t = memberOf name (s ++ t) := by
  simp [memberOf]

theorem stops_printItems (d e : Nat) (items : List Json) (t : Bytes) :
    Stops (printItems d items ++ (indent e ++ t)) := by
  cases items with
  | nil =>
    rw [printItems]
    exact stops_indent e t
  | cons item items =>
    rw [printItems_cons]
    exact stops_cons (by decide) _

theorem stops_printMembers (d e : Nat) (members : List (Bytes × Json)) (t : Bytes) :
    Stops (printMembers d members ++ (indent e ++ t)) := by
  cases members with
  | nil =>
    rw [printMembers]
    exact stops_indent e t
  | cons member members =>
    rw [printMembers_cons]
    exact stops_cons (by decide) _

theorem length_indent (depth : Nat) : 0 < (indent depth).length := by
  simp [indent]

mutual

/-- Every readable document is read back from what is written for it. -/
theorem value?_printAt : ∀ (j : Json) (d depth fuel : Nat) (t : Bytes), Readable depth j →
    Stops t → (printAt d j).length ≤ fuel → value? fuel depth (printAt d j ++ t) = some (j, t)
  | .null, d, depth, fuel, t, _, _, hf => by
    rw [printAt] at hf ⊢
    obtain ⟨fuel, rfl⟩ := Nat.exists_eq_add_one.mpr (lt_of_lt_of_le (by decide) hf)
    exact value?_word .null fuel depth t
  | .bool true, d, depth, fuel, t, _, _, hf => by
    rw [printAt, if_pos rfl] at hf ⊢
    obtain ⟨fuel, rfl⟩ := Nat.exists_eq_add_one.mpr (lt_of_lt_of_le (by decide) hf)
    exact value?_word .true fuel depth t
  | .bool false, d, depth, fuel, t, _, _, hf => by
    rw [printAt, if_neg Bool.false_ne_true] at hf ⊢
    obtain ⟨fuel, rfl⟩ := Nat.exists_eq_add_one.mpr (lt_of_lt_of_le (by decide) hf)
    exact value?_word .false fuel depth t
  | .number l, d, depth, fuel, t, h, ht, hf => by
    rw [Readable] at h
    rw [printAt] at hf ⊢
    obtain ⟨b, s, hl, -⟩ := h.first
    obtain ⟨fuel, rfl⟩ := Nat.exists_eq_add_one.mpr (lt_of_lt_of_le (by simp [hl]) hf)
    exact value?_number h fuel depth ht
  | .string l, d, depth, fuel, t, h, _, hf => by
    rw [Readable] at h
    rw [printAt_string] at hf ⊢
    obtain ⟨fuel, rfl⟩ := Nat.exists_eq_add_one.mpr (lt_of_lt_of_le (by simp) hf)
    rw [List.cons_append, List.append_assoc, List.singleton_append]
    exact value?_string h fuel depth t
  | .array [], d, depth, fuel, t, h, _, hf => by
    rw [Readable] at h
    rw [printAt] at hf ⊢
    obtain ⟨fuel, rfl⟩ := Nat.exists_eq_add_one.mpr (lt_of_lt_of_le (by decide) hf)
    change value? (fuel + 1) depth (byte '[' :: byte ']' :: t) = _
    rw [value?, if_neg (by decide), if_pos rfl, if_neg (by omega),
      skipSpace_of_not (show isSpace (byte ']') = false by decide)]
    simp only [if_true]
  | .array (item :: items), d, depth, fuel, t, h, _, hf => by
    rw [Readable, ReadableItems] at h
    obtain ⟨hd, hitem, hitems⟩ := h
    obtain ⟨b, s, hb, hspace, hclose⟩ := printAt_first (d + 1) hitem
    have hindent := length_indent (d + 1)
    have hindent' := length_indent d
    rw [printAt_array] at hf ⊢
    simp only [List.length_cons, List.length_append, List.length_nil] at hf
    obtain ⟨fuel, rfl⟩ : ∃ k, fuel = k + 2 := ⟨fuel - 2, by omega⟩
    simp only [List.cons_append, List.append_assoc, List.nil_append]
    have hv := value?_printAt item (d + 1) (depth + 1) fuel
      (printItems (d + 1) items ++ (indent d ++ byte ']' :: t)) hitem (stops_printItems _ _ _ _)
      (by omega)
    have hi := items?_printItems items item (d + 1) d (depth + 1) fuel _ t hv hitems (by omega)
    rw [hb, List.cons_append] at hi
    refine value?_array hd ?_ hclose hi
    rw [skipSpace_indent, hb, List.cons_append, skipSpace_of_not hspace]
  | .object [], d, depth, fuel, t, h, _, hf => by
    rw [Readable] at h
    rw [printAt] at hf ⊢
    obtain ⟨fuel, rfl⟩ := Nat.exists_eq_add_one.mpr (lt_of_lt_of_le (by decide) hf)
    change value? (fuel + 1) depth (byte '\x7b' :: byte '\x7d' :: t) = _
    rw [value?, if_neg (by decide), if_neg (by decide), if_pos rfl, if_neg (by omega),
      skipSpace_of_not (show isSpace (byte '\x7d') = false by decide)]
    simp only [if_true]
  | .object ((name, value) :: members), d, depth, fuel, t, h, _, hf => by
    rw [Readable, ReadableMembers] at h
    obtain ⟨hd, hname, hvalue, hmembers⟩ := h
    have hindent := length_indent (d + 1)
    have hindent' := length_indent d
    rw [printAt_object] at hf ⊢
    simp only [memberOf, List.length_cons, List.length_append, List.length_nil] at hf
    obtain ⟨fuel, rfl⟩ : ∃ k, fuel = k + 2 := ⟨fuel - 2, by omega⟩
    simp only [List.cons_append, List.append_assoc, memberOf_append, List.nil_append]
    have hv := value?_printAt value (d + 1) (depth + 1) fuel
      (printMembers (d + 1) members ++ (indent d ++ byte '\x7d' :: t)) hvalue
      (stops_printMembers _ _ _ _) (by omega)
    have hm := members?_printMembers members name value (d + 1) d (depth + 1) fuel _ t hname
      (skipSpace_printAt (d + 1) hvalue _) hv hmembers (by omega)
    refine value?_object hd ?_ hm
    rw [skipSpace_indent]
    exact skipSpace_of_not (by decide) _

/-- After its first item the rest of a list is read back up to the bracket that closes it. -/
theorem items?_printItems : ∀ (items : List Json) (item : Json) (d e depth fuel : Nat)
    (s t : Bytes),
    value? fuel depth s = some (item, printItems d items ++ (indent e ++ byte ']' :: t)) →
    ReadableItems depth items → (printItems d items).length ≤ fuel →
    items? (fuel + 1) depth s = some (item :: items, t)
  | [], item, d, e, depth, fuel, s, t, hv, _, _ => by
    refine items?_cons hv (.last ?_)
    rw [printItems, List.nil_append, skipSpace_indent]
    exact skipSpace_of_not (by decide) t
  | item' :: items, item, d, e, depth, fuel, s, t, hv, h, hf => by
    rw [ReadableItems] at h
    have hindent := length_indent d
    rw [printItems_cons] at hf hv
    simp only [List.length_cons, List.length_append] at hf
    simp only [List.cons_append, List.append_assoc] at hv
    obtain ⟨fuel, rfl⟩ : ∃ k, fuel = k + 1 := ⟨fuel - 1, by omega⟩
    have hv' := value?_printAt item' d depth fuel
      (printItems d items ++ (indent e ++ byte ']' :: t)) h.1 (stops_printItems _ _ _ _) (by omega)
    have hi := items?_printItems items item' d e depth fuel _ t hv' h.2 (by omega)
    refine items?_cons hv (.more (skipSpace_of_not (by decide) _) ?_)
    rw [skipSpace_indent, skipSpace_printAt d h.1]
    exact hi

/-- After the value of its first member the rest of an object is read back up to the brace that
closes it. -/
theorem members?_printMembers : ∀ (members : List (Bytes × Json)) (name : Bytes) (value : Json)
    (d e depth fuel : Nat) (s t : Bytes), TextUnit.valid name = true → skipSpace s = s →
    value? fuel depth s = some (value, printMembers d members ++ (indent e ++ byte '\x7d' :: t)) →
    ReadableMembers depth members → (printMembers d members).length ≤ fuel →
    members? (fuel + 1) depth (memberOf name s) = some ((name, value) :: members, t)
  | [], name, value, d, e, depth, fuel, s, t, hn, hs, hv, _, _ => by
    refine members?_cons hn hs hv (.last ?_)
    rw [printMembers, List.nil_append, skipSpace_indent]
    exact skipSpace_of_not (by decide) t
  | (name', value') :: members, name, value, d, e, depth, fuel, s, t, hn, hs, hv, h, hf => by
    rw [ReadableMembers] at h
    obtain ⟨hname, hvalue, hmembers⟩ := h
    have hindent := length_indent d
    rw [printMembers_cons] at hf hv
    simp only [memberOf, List.length_cons, List.length_append] at hf
    simp only [List.cons_append, List.append_assoc, memberOf_append] at hv
    obtain ⟨fuel, rfl⟩ : ∃ k, fuel = k + 1 := ⟨fuel - 1, by omega⟩
    have hv' := value?_printAt value' d depth fuel
      (printMembers d members ++ (indent e ++ byte '\x7d' :: t)) hvalue (stops_printMembers _ _ _ _)
      (by omega)
    have hm := members?_printMembers members name' value' d e depth fuel _ t hname
      (skipSpace_printAt d hvalue _) hv' hmembers (by omega)
    refine members?_cons hn hs hv (.more (skipSpace_of_not (by decide) _) ?_)
    rw [skipSpace_indent, memberOf, skipSpace_of_not (by decide)]
    exact hm

end

/-- A readable document is read back from its text. -/
theorem parse?_print {j : Json} (h : Readable 0 j) : parse? (print j) = some j := by
  have hv := value?_printAt j 0 0 (2 * (print j).length + 1) [] h (by rintro b ⟨⟩) (by
    rw [print]
    omega)
  have hs := skipSpace_printAt 0 h []
  rw [List.append_nil] at hv hs
  rw [parse?, print, hs]
  rw [print] at hv
  rw [hv]
  rfl

theorem wholePart?_decimal (n : Nat) {t : Bytes} (ht : Stops t) :
    wholePart? (decimal n ++ t) = some (decimal n, t) := by
  have hdigits : ∀ b ∈ decimal n, isDigit b = true := fun b => isDigit_of_mem_decimal
  rcases Nat.eq_zero_or_pos n with rfl | hpos
  · have hzero : decimal 0 = [byte '0'] := by
      rw [decimal, if_pos (by decide)]
      rfl
    rw [hzero, List.singleton_append, wholePart?, if_pos rfl]
  · obtain ⟨b, s, hb, hzero⟩ := decimal_first hpos
    rw [hb] at hdigits ⊢
    have htake := takeWhile_digits hdigits fun b hb => (ht b hb).1
    rw [List.cons_append] at htake ⊢
    rw [wholePart?, if_neg hzero, digits?, htake]
    simp

theorem fractionPart?_of_stops {t : Bytes} (ht : Stops t) : fractionPart? t = some ([], t) := by
  cases t with
  | nil => rfl
  | cons b t => rw [fractionPart?, if_neg (ht b rfl).2.1]

theorem exponentPart?_of_stops {t : Bytes} (ht : Stops t) : exponentPart? t = some ([], t) := by
  cases t with
  | nil => rfl
  | cons b t => simp only [exponentPart?.eq_def, if_neg (ht b rfl).2.2]

/-- The text of an integer is a number literal. -/
theorem isNumber_signed (n : Int) : IsNumber (signed n) := by
  obtain ⟨b, s, hb⟩ := List.exists_cons_of_ne_nil (decimal_ne_nil n.natAbs)
  have hdigit : isDigit b = true := isDigit_of_mem_decimal (show b ∈ decimal n.natAbs by simp [hb])
  rw [signed]
  split_ifs with hn
  · refine ⟨⟨_, _, rfl, .inl rfl⟩, fun t ht => ?_⟩
    rw [List.cons_append, number?]
    simp only [if_true, wholePart?_decimal _ ht, Option.bind_eq_bind, Option.bind_some,
      fractionPart?_of_stops ht, exponentPart?_of_stops ht]
    simp
  · refine ⟨⟨b, s, hb, .inr hdigit⟩, fun t ht => ?_⟩
    have hminus : b ≠ byte '-' := by
      rintro rfl
      revert hdigit
      decide
    have hwhole := wholePart?_decimal n.natAbs ht
    rw [hb, List.cons_append] at hwhole ⊢
    rw [number?]
    simp only [if_neg hminus, hwhole, Option.bind_eq_bind, Option.bind_some,
      fractionPart?_of_stops ht, exponentPart?_of_stops ht]
    simp

end DocPull.Json
