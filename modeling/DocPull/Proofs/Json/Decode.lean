import DocPull.Json.Decode
import DocPull.Proofs.Json.RoundTrip

/-!
# Members and readers

A record takes on its members one after another. What all its readers preserve, the record keeps;
and the documents of texts, integers and lists of texts are read as what they were made of.
-/
namespace DocPull.Json

section Record

variable {α : Type} {fields : List (String × (α → Json → Option α))}

theorem toRecord_nil (a : α) : toRecord fields a (.object []) = some a := rfl

theorem toRecord_cons {name : Bytes} {read : α → Json → Option α}
    (hread : toRecord.reader? fields name = some read) (a : α) (value : Json)
    (members : List (Bytes × Json)) :
    toRecord fields a (.object ((name, value) :: members)) =
      (read a value).bind fun b => toRecord fields b (.object members) := by
  simp only [toRecord, List.foldlM_cons, hread]
  rfl

/-- The reader of a name, where no other reader has the same name. -/
theorem reader?_of_mem {name : String} {read : α → Json → Option α}
    (hnodup : (fields.map fun f => utf8 f.1).Nodup) (hmem : (name, read) ∈ fields) :
    toRecord.reader? fields (utf8 name) = some read := by
  have hfind : fields.find? (fun f => utf8 f.1 == utf8 name) = some (name, read) := by
    induction fields with
    | nil => cases hmem
    | cons f fields ih =>
      rw [List.map_cons, List.nodup_cons] at hnodup
      rcases List.mem_cons.mp hmem with rfl | hrest
      · rw [List.find?_cons_of_pos (by simp)]
      · have hne : utf8 f.1 ≠ utf8 name := by
          intro heq
          apply hnodup.1
          rw [heq]
          exact List.mem_map_of_mem hrest
        rw [List.find?_cons_of_neg (by simpa using hne), ih hnodup.2 hrest]
  rw [toRecord.reader?, hfind]

/-- A reader is found by a name that differs from its own in case at most. -/
theorem reader?_mem {name : Bytes} {read : α → Json → Option α}
    (h : toRecord.reader? fields name = some read) :
    ∃ f ∈ fields, f.2 = read ∧ Fold.same name f.1 = true := by
  rw [toRecord.reader?] at h
  split at h
  · rename_i f hf
    cases h
    have hname : utf8 f.1 = name := by simpa using List.find?_some hf
    exact ⟨f, List.mem_of_find?_eq_some hf, rfl, hname ▸ beq_self_eq_true _⟩
  · obtain ⟨f, hf, hread⟩ := Option.map_eq_some_iff.mp h
    exact ⟨f, List.mem_of_find?_eq_some hf, hread, by simpa using List.find?_some hf⟩

/-- What every reader preserves, a record keeps while it is filled. -/
theorem toRecord_keeps {P : α → Prop}
    (hstep : ∀ f ∈ fields, ∀ a value b, P a → f.2 a value = some b → P b) {old new : α} {j : Json}
    (hold : P old) (h : toRecord fields old j = some new) : P new := by
  cases j with
  | null =>
    cases h
    exact hold
  | object members =>
    induction members generalizing old with
    | nil =>
      cases h
      exact hold
    | cons member members ih =>
      obtain ⟨name, value⟩ := member
      cases hreader : toRecord.reader? fields name with
      | none =>
        simp only [toRecord, List.foldlM_cons, hreader] at h
        exact ih hold h
      | some read =>
        rw [toRecord_cons hreader, Option.bind_eq_some_iff] at h
        obtain ⟨b, hb, hrest⟩ := h
        obtain ⟨f, hf, rfl, -⟩ := reader?_mem hreader
        exact ih (hstep f hf old value b hold hb) hrest
  | _ => cases h

end Record

theorem toText_ofText {s : Bytes} (h : TextUnit.valid s = true) (old : Bytes) :
    (ofText s).toText old = some s := by
  rw [ofText, toText, unquote_quote h]

theorem toInteger_ofInt {n : Int} (h : Numeral.Fits n) (old : Int) :
    (ofInt n).toInteger old = some n := by
  rw [ofInt, toInteger, Numeral.integer_signed h]
  rfl

theorem readItems_texts {texts : List Bytes} (h : ∀ s ∈ texts, TextUnit.valid s = true) :
    readItems (fun old => toText (old.getD [])) [] (texts.map ofText) = some ⟨texts, []⟩ := by
  induction texts with
  | nil => rfl
  | cons s texts ih =>
    rw [List.forall_mem_cons] at h
    rw [List.map_cons, readItems, toText_ofText h.1, List.tail_nil, ih h.2]
    rfl

/-- A list of texts is read from its document. -/
theorem toTexts_texts {texts : List Bytes} (h : ∀ s ∈ texts, TextUnit.valid s = true) :
    toTexts none (.array (texts.map ofText)) = some (some ⟨texts, []⟩) := by
  cases texts with
  | nil => rfl
  | cons s texts =>
    have hread := readItems_texts h
    rw [List.map_cons] at hread ⊢
    simp only [toTexts, toList, Option.getD_none, Slots.empty, List.append_nil, hread,
      Option.map_some]

/-- What every item preserves, the items of an array keep, also behind the end of the list. -/
theorem readItems_keeps {α : Type} {P : α → Prop} {read : Option α → Json → Option α}
    (hread : ∀ old j a, (∀ b ∈ old, P b) → read old j = some a → P a) {old : List α}
    {js : List Json} {slots : Slots α} (hold : ∀ a ∈ old, P a)
    (h : readItems read old js = some slots) : ∀ a ∈ slots.items ++ slots.spare, P a := by
  induction js generalizing old slots with
  | nil =>
    cases h
    exact hold
  | cons j js ih =>
    simp only [readItems, Option.bind_eq_bind, Option.bind_eq_some_iff] at h
    obtain ⟨a, ha, rest, hrest, hslots⟩ := h
    cases hslots
    have hfirst : P a := hread _ j a (fun b hb => hold b (List.mem_of_mem_head? hb)) ha
    have hlater := ih (fun b hb => hold b (List.mem_of_mem_tail hb)) hrest
    rintro b (_ | ⟨_, hb⟩)
    · exact hfirst
    · exact hlater b hb

/-- The texts of a list are UTF-8 when those it is read over are. -/
theorem toTexts_valid {old new : Option (Slots Bytes)} {j : Json}
    (hold : ∀ slots ∈ old, ∀ s ∈ slots.items ++ slots.spare, TextUnit.valid s = true)
    (h : toTexts old j = some new) :
    ∀ slots ∈ new, ∀ s ∈ slots.items ++ slots.spare, TextUnit.valid s = true := by
  have htext : ∀ (old : Option Bytes) (j : Json) (s : Bytes),
      (∀ b ∈ old, TextUnit.valid b = true) → toText (old.getD []) j = some s →
        TextUnit.valid s = true := by
    intro old j s hvalid hs
    cases j with
    | null =>
      cases hs
      cases old with
      | none => rfl
      | some b => exact hvalid b rfl
    | string l =>
      cases hs
      exact valid_unquote l
    | _ => cases hs
  unfold toTexts toList at h
  split at h
  · cases h
    rintro slots ⟨⟩
  · cases h
    rintro slots ⟨⟩ s hs
    cases hs
  · obtain ⟨slots, hread, rfl⟩ := Option.map_eq_some_iff.mp h
    rintro slots' ⟨⟩
    refine readItems_keeps htext ?_ hread
    cases old with
    | none => simp [Slots.empty]
    | some slots => exact hold slots rfl
  · cases h

theorem readable_ofText (depth : Nat) (s : Bytes) : Readable depth (ofText s) := by
  rw [ofText, Readable]
  exact literal?_quote s

theorem readable_texts (depth : Nat) (texts : List Bytes) :
    ReadableItems depth (texts.map ofText) := by
  induction texts with
  | nil => trivial
  | cons s texts ih => exact ⟨readable_ofText depth s, ih⟩

end DocPull.Json
