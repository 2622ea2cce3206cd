import DocPull.Proofs.Config.Resolve

/-!
# Which layer a setting comes from

A document sets exactly the settings whose keys it holds, also to an empty text; every other setting
keeps its default. After that a setting is what the command line or the environment says, if that is
not empty, and else what was loaded. Paths that are still empty get their default places, and in all
paths the home is spelled out.
-/
open DocPull.Files DocPull.Toml

namespace DocPull.Config

/-- A setting as a value that a document can give it. -/
def Setting.value (f : Setting) (c : Settings) : Value :=
  match f with
  | .scopes => .array (c.auth.scopes.map .string)
  | f => .string (f.getText c)

/-- The values that the keys of a section give to a setting, in order. -/
def valuesIn (s : Section) (f : Setting) (t : Table) : List Value :=
  t.flatMap fun (key, v) => if setting? s key = some f then [v] else []

/-- The values that a document gives to a setting, in order. There are several when several keys
differ in case only. -/
def valuesOf (f : Setting) (d : Document) : List Value :=
  d.root.flatMap fun (key, v) =>
    match section? key, v with
    | some s, .table t => valuesIn s f t
    | _, _ => []

theorem value_setText {f : Setting} (hf : f ≠ .scopes) (s : Bytes) (c : Settings) (g : Setting) :
    g.value (f.setText s c) = if g = f then .string s else g.value c := by
  cases f <;> cases g <;> first | rfl | exact absurd rfl hf

theorem value_setScopes (scopes : List Bytes) (c : Settings) (g : Setting) :
    g.value (c.setScopes scopes) =
      if g = .scopes then .array (scopes.map .string) else g.value c := by
  cases g <;> rfl

theorem eq_map_of_texts? {items : List Value} {texts : List Bytes}
    (h : texts? items = some texts) : items = texts.map .string := by
  induction items generalizing texts with
  | nil =>
    cases h
    rfl
  | cons v items ih =>
    simp only [texts?, List.mapM_cons, Option.bind_eq_bind, Option.bind_eq_some_iff] at h
    obtain ⟨s, hs, rest, hrest, htexts⟩ := h
    cases htexts
    cases v with
    | string s' =>
      cases hs
      rw [List.map_cons, ← ih hrest]
    | _ => cases hs

/-- A value that a setting takes is its value from then on, and no other setting changes. -/
theorem applySetting_value {f : Setting} {v : Value} {c c' : Settings}
    (h : applySetting f v c = some c') (g : Setting) :
    g.value c' = if g = f then v else g.value c := by
  unfold applySetting at h
  split at h
  · rename_i items
    obtain ⟨texts, htexts, rfl⟩ := Option.map_eq_some_iff.mp h
    rw [value_setScopes, eq_map_of_texts? htexts]
  · cases h
  · rename_i s hf
    cases h
    rw [value_setText hf]
  · cases h

/-- Where each step of a reading gives a setting its values in order, the last of all values is the
one that stays. -/
theorem foldlM_value {α : Type} {step : Settings → α → Option Settings} {given : α → List Value}
    {f : Setting}
    (hstep : ∀ c a c', step c a = some c' → f.value c' = (given a).getLast?.getD (f.value c))
    {items : List α} {c c' : Settings} (h : items.foldlM step c = some c') :
    f.value c' = (items.flatMap given).getLast?.getD (f.value c) := by
  induction items generalizing c with
  | nil =>
    cases h
    rfl
  | cons a items ih =>
    rw [List.foldlM_cons, Option.bind_eq_bind, Option.bind_eq_some_iff] at h
    obtain ⟨c₁, hfirst, hrest⟩ := h
    rw [ih hrest, hstep c a c₁ hfirst, List.flatMap_cons, List.getLast?_append]
    cases (items.flatMap given).getLast? with
    | none => rw [Option.none_or, Option.getD_none]
    | some v => rfl

theorem applySection_value {s : Section} {t : Table} {c c' : Settings}
    (h : applySection s t c = some c') (f : Setting) :
    f.value c' = (valuesIn s f t).getLast?.getD (f.value c) := by
  refine foldlM_value ?_ h
  rintro c ⟨key, v⟩ c' hstep
  dsimp only at hstep ⊢
  cases hkey : setting? s key with
  | none =>
    rw [hkey] at hstep
    cases hstep
    rfl
  | some g =>
    rw [hkey] at hstep
    rw [applySetting_value hstep]
    by_cases hf : f = g
    · simp [hf]
    · simp [hf, Ne.symm hf]

/-- After a document every setting has the last value that the document gives it, or keeps the one
it had when the document gives it none. -/
theorem applyDocument_value {d : Document} {c c' : Settings} (h : applyDocument d c = some c')
    (f : Setting) : f.value c' = (valuesOf f d).getLast?.getD (f.value c) := by
  refine foldlM_value ?_ h
  rintro c ⟨key, v⟩ c' hstep
  dsimp only at hstep ⊢
  cases hkey : section? key with
  | none =>
    rw [hkey] at hstep
    cases hstep
    rfl
  | some s =>
    rw [hkey] at hstep
    cases v with
    | table t => exact applySection_value hstep f
    | _ => cases hstep

@[simp] theorem orElse_nil_left (s : Bytes) : orElse [] s = s := rfl

/-- A file that gives settings gives each one its last value, or the default when it has none for
it. -/
theorem Gives.value {t : Tree} {path : Bytes} {c : Settings} (h : Gives t path c) :
    ((path = [] ∨ t.isMissing path = true) ∧ c = defaults) ∨
      ∃ content d, t.read path = .ok content ∧ Toml.parse? content = some d ∧
        ∀ f : Setting, f.value c = (valuesOf f d).getLast?.getD (f.value defaults) := by
  cases h with
  | nothing h => exact .inl ⟨h, rfl⟩
  | document hread hparse happly _ =>
    exact .inr ⟨_, _, hread, hparse, applyDocument_value happly⟩

end DocPull.Config
