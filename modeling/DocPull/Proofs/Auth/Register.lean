import DocPull.Proofs.Auth.TokenFile
import DocPull.Proofs.Files.PlainName

/-!
# The token file as a register

Saves and removals at one name, in any order and with any of them failing: what is loaded in the end
is what the last successful one left. A failed save changes nothing about what is loaded, with one
exception. Where a component of the name is too long, nothing can be saved, but the directories
above that component are made, and from then on loading complains about the component instead of
finding nothing.
-/
open DocPull.Files DocPull.Files.Tree

namespace DocPull.Auth.TokenFile

/-- A call that changes the file. -/
inductive Operation where
  | save (c : Credential) (digits : Nat → Bytes)
  | remove

/-- The tree after a call, and whether it succeeded. -/
def Operation.apply (path : Bytes) (t : Tree) : Operation → Tree × Except Error Unit
  | save c digits =>
    let w := TokenFile.save t path (some c.token) c.scopes digits
    (w.final t, w.result)
  | remove =>
    match TokenFile.remove t path with
    | .ok u => (u, .ok ())
    | .error e => (t, .error e)

/-- The tree after some calls. -/
def after (path : Bytes) : Tree → List Operation → Tree
  | t, [] => t
  | t, op :: ops => after path (op.apply path t).1 ops

/-- The last of some calls that succeeded. -/
def lastDone? (path : Bytes) : Tree → List Operation → Option Operation
  | _, [] => none
  | t, op :: ops =>
    match lastDone? path (op.apply path t).1 ops with
    | some done => some done
    | none =>
      match (op.apply path t).2 with
      | .ok _ => some op
      | .error _ => none

/-- A credential that a file can hold: UTF-8 texts, something to use, and an expiry that is a time
with an offset of whole minutes. -/
structure Storable (c : Credential) : Prop where
  isText : c.IsText
  holds : c.token.Holds
  lifetime : Numeral.Fits c.token.expiresIn
  nanos : c.token.expiry.nanos < 1000000000
  offset : c.token.expiry.offset % 60 = 0

/-- What loading complains about once the directory of a component that is too long is there. -/
def tooLong (path : Bytes) : Error := .unreadable path ⟨"open", path, .nameTooLong⟩

/-- What is loaded is as expected, or nothing was expected and the name is too long to be used. -/
def Agrees (path : Bytes) (expected actual : Except Error (Option Credential)) : Prop :=
  actual = expected ∨
    expected = .ok none ∧ HasLongComponent path ∧ actual = .error (tooLong path)

theorem Agrees.trans {path : Bytes} {a b c : Except Error (Option Credential)}
    (h : Agrees path a b) (h' : Agrees path b c) : Agrees path a c := by
  rcases h with rfl | ⟨hnone, hlong, hb⟩
  · exact h'
  · rcases h' with rfl | ⟨hnone', -, -⟩
    · exact .inr ⟨hnone, hlong, hb⟩
    · rw [hb] at hnone'
      cases hnone'

/-- What the last successful call says about a load: the credential it saved, nothing after a
removal, and what was loaded before if no call succeeded. -/
def Reflects (path : Bytes) (before : Except Error (Option Credential)) (done : Option Operation)
    (actual : Except Error (Option Credential)) : Prop :=
  match done with
  | some (.save c _) => ∃ scopes, actual = .ok (some ⟨c.token, scopes⟩) ∧
      scopes.getD [] = c.scopes.getD []
  | some .remove => Agrees path (.ok none) actual
  | none => Agrees path before actual

theorem Reflects.trans {path : Bytes} {before : Except Error (Option Credential)}
    {done : Option Operation} {actual later : Except Error (Option Credential)}
    (h : Reflects path before done actual) (h' : Agrees path actual later) :
    Reflects path before done later := by
  match done with
  | none => exact Agrees.trans h h'
  | some .remove => exact Agrees.trans h h'
  | some (.save c _) =>
    obtain ⟨scopes, hactual, hscopes⟩ := h
    refine ⟨scopes, ?_, hscopes⟩
    rcases h' with rfl | ⟨hnone, -, -⟩
    · exact hactual
    · rw [hactual] at hnone
      cases hnone

section Steps

variable {t : Tree} {path : Bytes} {op : Operation}

theorem load_of_missing (h : t.lookup path = .error .noEntry) : load t path = .ok none := by
  simp [load, Tree.read, h]

/-- Directories made for a plain name change nothing about what is loaded. -/
theorem load_of_makes {u : Tree} (ht : Closed t) (hpath : IsPlain path)
    (h : Makes (Path.dir path) dirMode t u) : Agrees path (load t path) (load u path) := by
  rcases lookup_of_makes ht hpath (by decide) h with hsame | ⟨hmissing, hlong, hcomponent⟩
  · left
    simp only [load, Tree.read, hsame]
  · right
    refine ⟨load_of_missing hmissing, hcomponent, ?_⟩
    simp [load, Tree.read, hlong, tooLong]

theorem remove_eq_ok {u : Tree} (h : remove t path = .ok u) :
    t.remove path = .ok u ∨ t.lookup path = .error .noEntry ∧ u = t := by
  rw [remove] at h
  cases hremove : t.remove path with
  | ok v =>
    rw [hremove] at h
    cases h
    exact .inl rfl
  | error e =>
    rw [hremove] at h
    dsimp only at h
    split_ifs at h with hmissing
    cases h
    exact .inr ⟨remove_missing hremove hmissing, rfl⟩

/-- Every call keeps a tree closed. -/
theorem apply_closed (ht : Closed t) (path : Bytes) (op : Operation) :
    Closed (op.apply path t).1 := by
  cases op with
  | save c digits =>
    change Closed ((save t path (some c.token) c.scopes digits).final t)
    cases hw : c.token.expiry.unwritable? with
    | some why =>
      rw [save_of_unwritable hw]
      exact ht
    | none =>
      rw [save_of_writable hw]
      exact writeFile_closed ht
  | remove =>
    rw [Operation.apply]
    cases hremove : remove t path with
    | error e => exact ht
    | ok u =>
      rcases remove_eq_ok hremove with hgone | ⟨-, rfl⟩
      · exact remove_closed ht hgone
      · exact ht

/-- A failed call changes nothing about what is loaded. -/
theorem apply_error (ht : Closed t) (hpath : IsPlain path) {e : Error}
    (h : (op.apply path t).2 = .error e) :
    Agrees path (load t path) (load (op.apply path t).1 path) := by
  cases op with
  | save c digits => exact load_of_makes ht hpath (save_makes h)
  | remove =>
    rw [Operation.apply] at h ⊢
    cases hremove : remove t path with
    | error e' => exact .inl rfl
    | ok u =>
      rw [hremove] at h
      cases h

/-- What a successful call leaves is loaded. -/
theorem apply_ok (hpath : IsPlain path) (hop : ∀ c digits, op = .save c digits → Storable c)
    (h : (op.apply path t).2 = .ok ()) (before : Except Error (Option Credential)) :
    Reflects path before (some op) (load (op.apply path t).1 path) := by
  cases op with
  | save c digits =>
    have hc := hop c digits rfl
    have hsound : c.token.Sound c.token.expiry := ⟨hc.lifetime, hc.nanos, .inl hc.offset⟩
    obtain ⟨scopes, hload, hscopes⟩ := load_of_save hc.isText hc.holds hsound h
    rw [hsound.stored_eq hc.offset] at hload
    exact ⟨scopes, hload, hscopes⟩
  | remove =>
    left
    rw [Operation.apply] at h ⊢
    cases hremove : remove t path with
    | error e =>
      rw [hremove] at h
      cases h
    | ok u =>
      rcases remove_eq_ok hremove with hgone | ⟨hmissing, rfl⟩
      · exact load_of_missing (lookup_of_remove hpath hgone)
      · exact load_of_missing hmissing

end Steps

theorem after_closed {t : Tree} (ht : Closed t) (path : Bytes) (ops : List Operation) :
    Closed (after path t ops) := by
  induction ops generalizing t with
  | nil => exact ht
  | cons op ops ih => exact ih (apply_closed ht path op)

/-- Some calls reflect their last successful one. -/
theorem reflects_after {t : Tree} (ht : Closed t) {path : Bytes} (hpath : IsPlain path)
    {ops : List Operation} (hops : ∀ c digits, .save c digits ∈ ops → Storable c) :
    Reflects path (load t path) (lastDone? path t ops) (load (after path t ops) path) := by
  induction ops generalizing t with
  | nil => exact .inl rfl
  | cons op ops ih =>
    have hrest := ih (apply_closed ht path op) fun c digits hc => hops c digits (.tail _ hc)
    rw [after, lastDone?]
    cases hdone : lastDone? path (op.apply path t).1 ops with
    | some done =>
      rw [hdone] at hrest
      cases done <;> exact hrest
    | none =>
      rw [hdone] at hrest
      cases hresult : (op.apply path t).2 with
      | ok _ =>
        have hop : ∀ c digits, op = .save c digits → Storable c := by
          rintro c digits rfl
          exact hops c digits (.head _)
        exact (apply_ok hpath hop hresult _).trans hrest
      | error e => exact (apply_error ht hpath hresult).trans hrest

/-- Whatever is saved and removed at a plain name, and whichever of it fails, what is loaded is what
the last successful call left, and a failing call more does not change it. -/
theorem load_after {t : Tree} (ht : Closed t) {path : Bytes} (hpath : IsPlain path)
    (ops : List Operation) (hops : ∀ c digits, .save c digits ∈ ops → Storable c) :
    Reflects path (load t path) (lastDone? path t ops) (load (after path t ops) path) ∧
      ∀ (op : Operation) (e : Error), (op.apply path (after path t ops)).2 = .error e →
        Agrees path (load (after path t ops) path)
          (load (op.apply path (after path t ops)).1 path) :=
  ⟨reflects_after ht hpath hops, fun _ _ he => apply_error (after_closed ht path ops) hpath he⟩

/-- A credential with characters that a document has to escape. -/
def sampleCredential : Credential :=
  ⟨⟨utf8 "a\"<&>\n", utf8 "Bearer", utf8 "r", ⟨0, 0, 3600⟩, 3599⟩, some [utf8 "drive"]⟩

theorem sampleCredential_storable : Storable sampleCredential where
  isText := ⟨by decide, by decide, by decide, by decide⟩
  holds := .inl (by decide)
  lifetime := ⟨by decide, by decide⟩
  nanos := by decide
  offset := by decide

theorem sampleCredential_loaded :
    ∃ scopes, load (after (utf8 "t/token.json") Tree.empty
        [.remove, .save sampleCredential fun _ => utf8 "7"]) (utf8 "t/token.json") =
      .ok (some ⟨sampleCredential.token, scopes⟩) ∧ scopes.getD [] = [utf8 "drive"] := by
  have hops : ∀ c digits, Operation.save c digits ∈
      [.remove, .save sampleCredential fun _ => utf8 "7"] → Storable c := by
    intro c digits hc
    simp only [List.mem_cons, reduceCtorEq, List.not_mem_nil, or_false, false_or,
      Operation.save.injEq] at hc
    exact hc.1 ▸ sampleCredential_storable
  have hsaved : (Operation.apply (utf8 "t/token.json") (Operation.apply (utf8 "t/token.json")
      Tree.empty .remove).1 (.save sampleCredential fun _ => utf8 "7")).2 = .ok () := by
    decide +kernel
  have hreflects := (load_after closed_empty (by decide : IsPlain (utf8 "t/token.json")) _ hops).1
  rw [lastDone?, lastDone?, lastDone?, hsaved] at hreflects
  exact hreflects

/-- A name whose last component is too long. -/
def longName : Bytes := utf8 "d/" ++ List.replicate 256 (byte 'a')

/-- A failing save after a removal makes the directory, and what is loaded is no longer nothing. -/
theorem longName_failure_visible :
    IsPlain longName ∧ Storable sampleCredential ∧
      (Operation.remove.apply longName Tree.empty).2 = .ok () ∧
      load (after longName Tree.empty [.remove]) longName = .ok none ∧
      (Operation.apply longName (after longName Tree.empty [.remove])
        (.save sampleCredential fun _ => utf8 "7")).2 ≠ .ok () ∧
      load (after longName Tree.empty [.remove, .save sampleCredential fun _ => utf8 "7"])
        longName ≠ .ok none := by
  refine ⟨by decide +kernel, sampleCredential_storable, by decide +kernel, by decide +kernel,
    by decide +kernel, by decide +kernel⟩

end DocPull.Auth.TokenFile
