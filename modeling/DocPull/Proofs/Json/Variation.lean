import DocPull.Proofs.Json.Decode
import Mathlib.Data.List.Forall2

/-!
# Documents that differ in some members

Two documents of the same members may differ in the values of some. A record that is read from one
of them is related to the record that is read from the other, when each reader turns what the values
have in common into what the records have in common.
-/
namespace DocPull.Fold

/-- Two texts that are the same up to case are so to the same texts. -/
theorem same_eq {s s' : Bytes} (h : same s s' = true) (ascii : Bytes) :
    same s' ascii = same s ascii := by
  rw [same, beq_iff_eq] at h
  rw [same, same, h]

end DocPull.Fold

namespace DocPull.Json

/-- Members whose values may differ, each with what its values have in common. -/
abbrev Variations := List (String × (Json → Json → Prop))

/-- The variation of a name, in any case. -/
def Variations.ofName? (vs : Variations) (name : Bytes) : Option (String × (Json → Json → Prop)) :=
  vs.find? fun v => Fold.same name v.1

/-- Whether the values of a name may be these two. -/
def Variations.Allow (vs : Variations) (name : Bytes) (j j' : Json) : Prop :=
  j' = j ∨ ∃ v, vs.ofName? name = some v ∧ v.2 j j'

/-- Two documents that are equal, or objects of the same members whose values may differ. -/
inductive Varied (vs : Variations) : Json → Json → Prop
  | same (j : Json) : Varied vs j j
  | members {ms ms' : List (Bytes × Json)}
      (h : List.Forall₂ (fun m m' => m'.1 = m.1 ∧ vs.Allow m.1 m.2 m'.2) ms ms') :
      Varied vs (.object ms) (.object ms')

section Allow

variable {vs : Variations} {name : Bytes} {j j' : Json}

/-- A name without a variation has one value. -/
theorem Variations.Allow.eq (h : vs.Allow name j j') (hname : vs.ofName? name = none) : j' = j := by
  rcases h with rfl | ⟨v, hv, -⟩
  · rfl
  · rw [hname] at hv
    cases hv

theorem Variations.Allow.eq_or {v : String × (Json → Json → Prop)} (h : vs.Allow name j j')
    (hname : vs.ofName? name = some v) : j' = j ∨ v.2 j j' := by
  rcases h with rfl | ⟨w, hw, hvalues⟩
  · exact .inl rfl
  · obtain rfl : w = v := Option.some.inj (hw.symm.trans hname)
    exact .inr hvalues

/-- Documents that are equal or vary in some members vary in these. -/
theorem Variations.Allow.varied {known : String} {inner : Variations} (h : vs.Allow name j j')
    (hname : vs.ofName? name = some (known, Varied inner)) : Varied inner j j' := by
  rcases h.eq_or hname with rfl | hvaried
  · exact .same j'
  · exact hvaried

/-- A name that differs from a known one in case only has the variation of the known one. -/
theorem Variations.Allow.of_same {known : Bytes} (h : vs.Allow name j j')
    (hname : Fold.same name known = true) : vs.Allow known j j' := by
  have hfind : vs.ofName? known = vs.ofName? name := by
    simp only [Variations.ofName?, Fold.same_eq hname]
  unfold Variations.Allow
  rw [hfind]
  exact h

end Allow

theorem forall₂_allow_refl (vs : Variations) (ms : List (Bytes × Json)) :
    List.Forall₂ (fun m m' => m'.1 = m.1 ∧ vs.Allow m.1 m.2 m'.2) ms ms :=
  List.forall₂_same.mpr fun _ _ => ⟨rfl, .inl rfl⟩

section Record

variable {α : Type} {fields : List (String × (α → Json → Option α))} {S : α → α → Prop}
  {vs : Variations}

/-- Records that are filled from documents with variations stay related, when every reader relates
what it reads from the values of its name. -/
theorem toRecord_varied
    (hread : ∀ f ∈ fields, ∀ a a' j j', S a a' → vs.Allow f.1 j j' →
      Option.Rel S (f.2 a j) (f.2 a' j'))
    {a a' : α} {j j' : Json} (ha : S a a') (hj : Varied vs j j') :
    Option.Rel S (toRecord fields a j) (toRecord fields a' j') := by
  have hmembers : ∀ ms ms', List.Forall₂ (fun m m' => m'.1 = m.1 ∧ vs.Allow m.1 m.2 m'.2) ms ms' →
      ∀ a a', S a a' →
        Option.Rel S (toRecord fields a (.object ms)) (toRecord fields a' (.object ms')) := by
    intro ms ms' h
    induction h with
    | nil => exact fun a a' ha => .some ha
    | @cons m m' ms ms' hm _ ih =>
      intro a a' ha
      obtain ⟨name, value⟩ := m
      obtain ⟨name', value'⟩ := m'
      obtain ⟨rfl, hvalue⟩ : name' = name ∧ vs.Allow name value value' := hm
      cases hreader : toRecord.reader? fields name' with
      | none =>
        simp only [toRecord, List.foldlM_cons, hreader]
        exact ih a a' ha
      | some read =>
        obtain ⟨f, hf, rfl, hname⟩ := reader?_mem hreader
        rw [toRecord_cons hreader, toRecord_cons hreader]
        generalize f.2 a value = b, f.2 a' value' = b', hread f hf a a' value value' ha
          (hvalue.of_same hname) = hb
        cases hb with
        | none => exact .none
        | some hb => exact ih _ _ hb
  cases hj with
  | members h => exact hmembers _ _ h a a' ha
  | same =>
    cases j with
    | null => exact .some ha
    | object ms => exact hmembers ms ms (forall₂_allow_refl vs ms) a a' ha
    | _ => exact .none

/-- The same for records that may be missing. -/
theorem toOptional_varied {read : α → Json → Option α} {fresh : α}
    (hread : ∀ a a' j j', S a a' → Varied vs j j' → Option.Rel S (read a j) (read a' j'))
    (hfresh : S fresh fresh) {old old' : Option α} {j j' : Json} (hold : Option.Rel S old old')
    (hj : Varied vs j j') :
    Option.Rel (Option.Rel S) (toOptional fresh read old j) (toOptional fresh read old' j') := by
  have hgetD : S (old.getD fresh) (old'.getD fresh) := by
    cases hold with
    | some h => exact h
    | none => exact hfresh
  have hmapped := Outcome.rel_map (hread _ _ _ _ hgetD hj) (S := Option.Rel S) (f := some)
    (g := some) fun _ _ => .some
  cases hj with
  | members h => exact hmapped
  | same =>
    cases j with
    | null => exact .some .none
    | _ => exact hmapped

end Record

end DocPull.Json
