import DocPull.Proofs.Http.Client

/-!
# The network behind a client

A client reads and changes nothing of the world but its network. It takes answers from the front of
the queue, and the reply that it hands out is the last one it took. Every request that it makes on
the way carries the form it was given, or none. What it hands out depends on where its request goes
and not on what the request carries.
-/
namespace DocPull.Http

variable {ρ : Type}

/-- What a client may do to a network: take answers from the front of the queue, and put requests
of a kind on record. -/
structure Advances (P : Request → Prop) (w w' : Wire) : Prop where
  answers : w'.answers <:+ w.answers
  sent : ∃ new, w'.sent = new ++ w.sent ∧ ∀ r ∈ new, P r

namespace Advances

variable {P Q : Request → Prop} {w w₁ w₂ : Wire}

theorem refl (w : Wire) : Advances P w w :=
  ⟨List.suffix_refl _, [], rfl, by simp⟩

theorem trans (h₁ : Advances P w w₁) (h₂ : Advances P w₁ w₂) : Advances P w w₂ := by
  obtain ⟨ha₁, new₁, hs₁, hp₁⟩ := h₁
  obtain ⟨ha₂, new₂, hs₂, hp₂⟩ := h₂
  refine ⟨ha₂.trans ha₁, new₂ ++ new₁, ?_, ?_⟩
  · rw [hs₂, hs₁, List.append_assoc]
  · intro r hr
    rcases List.mem_append.mp hr with hr | hr
    · exact hp₂ r hr
    · exact hp₁ r hr

theorem mono (h : Advances P w w₁) (hpq : ∀ r, P r → Q r) : Advances Q w w₁ := by
  obtain ⟨ha, new, hs, hp⟩ := h
  exact ⟨ha, new, hs, fun r hr => hpq r (hp r hr)⟩

theorem suffix (h : Advances P w w₁) : w.sent <:+ w₁.sent := by
  obtain ⟨-, new, hnew, -⟩ := h
  exact ⟨new, hnew.symm⟩

end Advances

/-- A call that ended: a reply that it hands out is the last answer it took. -/
structure Answered {ε : Type} (P : Request → Prop) (w : Wire) (r : Except ε Reply × Wire) :
    Prop where
  advances : Advances P w r.2
  last : ∀ reply, r.1 = .ok reply → .reply reply :: r.2.answers <:+ w.answers

namespace Answered

variable {ε : Type} {P : Request → Prop} {w w₁ : Wire}

theorem of_error (h : Advances P w w₁) (e : ε) : Answered P w (.error e, w₁) := by
  refine ⟨h, ?_⟩
  rintro reply ⟨⟩

theorem of_reply {reply : Reply} (h : Advances P w w₁)
    (hlast : .reply reply :: w₁.answers <:+ w.answers) :
    Answered P w ((.ok reply, w₁) : Except ε Reply × Wire) := by
  refine ⟨h, ?_⟩
  rintro reply' ⟨⟩
  exact hlast

theorem after {r : Except ε Reply × Wire} (h : Advances P w w₁) (hr : Answered P w₁ r) :
    Answered P w r :=
  ⟨h.trans hr.advances, fun reply hreply => (hr.last reply hreply).trans h.answers⟩

end Answered

/-- Whether a request carries a form, or none at all. -/
def CarriesOnly (form : Option Query.Params) (r : Request) : Prop := r.form = none ∨ r.form = form

theorem signed_form (r : Request) : (signed r).form = r.form := by
  simp only [signed]
  split <;> rfl

theorem repeat_carriesOnly (withheld : Withheld) (first : Request) (method : String)
    (target : Url) : CarriesOnly first.form (withheld.repeat first method target) := by
  simp only [CarriesOnly, Withheld.repeat]
  split_ifs
  · exact .inl rfl
  · exact .inr rfl

/-- A request is put on record and takes one answer at most. -/
theorem plain_answered {P : Request → Prop} (listens : Bool) {r : Request} (w : Wire) (hr : P r) :
    Answered P w (plain (ρ := ρ) listens r w) := by
  have hput : ∀ rest canceled, rest <:+ w.answers → Advances P w ⟨rest, r :: w.sent, canceled⟩ :=
    fun rest canceled hrest => ⟨hrest, [r], rfl, by simpa using hr⟩
  simp only [plain, HasWire.wire, HasWire.setWire, Wire.send, id]
  split_ifs
  · exact .of_error (hput _ _ (List.suffix_refl _)) _
  · cases ha : w.answers with
    | nil => exact .of_error (hput _ _ List.nil_suffix) _
    | cons a rest =>
      have hrest : rest <:+ w.answers := ha ▸ List.suffix_cons a rest
      cases a with
      | reply reply => exact .of_reply (hput _ _ hrest) (ha ▸ List.suffix_refl _)
      | failure m => exact .of_error (hput _ _ hrest) _
      | cancel => exact .of_error (hput _ _ hrest) _

theorem readBody_answers (limit : Option Nat) (r : Reply) (w : Wire) :
    (readBody (ρ := ρ) limit r w).2.answers = w.answers := by
  simp only [readBody, HasWire.wire, HasWire.setWire, id, Wire.readBody]
  cases limit with
  | none => cases r.ending <;> rfl
  | some n =>
    dsimp only
    split_ifs
    · rfl
    · cases r.ending <;> rfl

/-- Reading a body takes no answer and makes no request. -/
theorem readBody_advances {P : Request → Prop} (limit : Option Nat) (r : Reply) (w : Wire) :
    Advances P w (readBody (ρ := ρ) limit r w).2 := by
  refine ⟨?_, [], ?_, by simp⟩
  · rw [readBody_answers]
  · exact Wire.readBody_sent limit r w

/-- A body that is read up to a limit is the start of the reply's. -/
theorem take_of_readBody {n : Nat} {r : Reply} {w : Wire} {body : Bytes}
    (h : (readBody (ρ := ρ) (some n) r w).1 = .ok body) : body = r.body.take n := by
  simp only [readBody, HasWire.wire, id, Wire.readBody] at h
  split_ifs at h with hlong
  · cases h
    rfl
  · cases hend : r.ending with
    | complete =>
      rw [hend] at h
      cases h
      rw [List.take_of_length_le (by omega)]
    | fails m =>
      rw [hend] at h
      cases h
    | cancels =>
      rw [hend] at h
      cases h

/-- Following redirects repeats a form or drops it, and ends with the reply that was taken last. -/
theorem follow_answered (listens : Bool) (first : Request) (fuel : Nat) (withheld : Withheld)
    {r : Request} (hr : CarriesOnly first.form r) (w : Wire) :
    Answered (CarriesOnly first.form) w
      (follow (plain (ρ := ρ) listens) first fuel withheld r w) := by
  induction fuel generalizing withheld r w with
  | zero => exact .of_error (.refl w) _
  | succ fuel ih =>
    have hsigned : CarriesOnly first.form (signed r) := by
      rw [CarriesOnly, signed_form]
      exact hr
    have hstep := plain_answered (ρ := ρ) listens w hsigned
    rw [follow]
    generalize plain (ρ := ρ) listens (signed r) w = sent at hstep
    obtain ⟨f | reply, w₁⟩ := sent
    · exact .of_error hstep.advances _
    · have hreply := hstep.last reply rfl
      dsimp only
      split
      · exact .of_reply hstep.advances hreply
      · exact .of_reply hstep.advances hreply
      · split
        · exact .of_error hstep.advances _
        · have hskim : Advances (CarriesOnly first.form) w (discard skimLimit reply w₁) :=
            hstep.advances.trans (readBody_advances (ρ := Empty) (some skimLimit) reply w₁)
          split_ifs
          · exact .of_error hskim _
          · exact .after hskim (ih _ (repeat_carriesOnly _ first _ _) _)

theorem run_answered (listens : Bool) (r : Request) (w : Wire) :
    Answered (CarriesOnly r.form) w (run (plain (ρ := ρ) listens) r w) :=
  follow_answered listens r maxRedirects ⟨false, false⟩ (.inr rfl) w

/-- The request itself is the first one that a call puts on record. -/
theorem run_sent (listens : Bool) (r : Request) (w : Wire) :
    signed r :: w.sent <:+ (run (plain (ρ := ρ) listens) r w).2.sent := by
  have hput : (plain (ρ := ρ) listens (signed r) w).2.sent = signed r :: w.sent := by
    simp only [plain, HasWire.wire, HasWire.setWire, Wire.send, id]
    split_ifs
    · rfl
    · cases w.answers with
      | nil => rfl
      | cons a rest => cases a <;> rfl
  rw [← hput, run, maxRedirects, follow]
  generalize plain (ρ := ρ) listens (signed r) w = sent
  obtain ⟨f | reply, w₁⟩ := sent
  · exact List.suffix_refl _
  · dsimp only
    split
    · exact List.suffix_refl _
    · exact List.suffix_refl _
    · split
      · exact List.suffix_refl _
      · have hskim : Advances (CarriesOnly r.form) w₁ (discard skimLimit reply w₁) :=
          readBody_advances (ρ := Empty) (some skimLimit) reply w₁
        rw [if_neg (by decide)]
        refine (hskim.trans (Answered.advances ?_)).suffix
        exact follow_answered listens r 9 _ (repeat_carriesOnly _ r _ _) _

/-- Redirects are followed through a world as they are over its network. -/
theorem follow_eq_wire (listens : Bool) (first : Request) (fuel : Nat) (withheld : Withheld)
    (r : Request) (h : Host) :
    follow (plain (ρ := ρ) listens) first fuel withheld r h =
      ((follow (plain (ρ := ρ) listens) first fuel withheld r h.wire).1,
        { h with wire := (follow (plain (ρ := ρ) listens) first fuel withheld r h.wire).2 }) := by
  have hplain : plain (ρ := ρ) listens (signed r) h =
      ((plain (ρ := ρ) listens (signed r) h.wire).1,
        { h with wire := (plain (ρ := ρ) listens (signed r) h.wire).2 }) := rfl
  induction fuel generalizing withheld r h with
  | zero => rfl
  | succ fuel ih =>
    rw [follow, follow, hplain]
    obtain ⟨f | reply, w⟩ := plain (ρ := ρ) listens (signed r) h.wire
    · rfl
    · dsimp only
      split
      · rfl
      · rfl
      · split
        · rfl
        · split_ifs
          · rfl
          · rw [ih _ _ _ rfl]
            rfl

theorem run_eq_wire (listens : Bool) (r : Request) (h : Host) :
    run (plain (ρ := ρ) listens) r h =
      ((run (plain (ρ := ρ) listens) r h.wire).1,
        { h with wire := (run (plain (ρ := ρ) listens) r h.wire).2 }) :=
  follow_eq_wire listens r maxRedirects ⟨false, false⟩ r h

theorem readBody_eq_wire (limit : Option Nat) (r : Reply) (h : Host) :
    readBody (ρ := ρ) limit r h =
      ((readBody (ρ := ρ) limit r h.wire).1,
        { h with wire := (readBody (ρ := ρ) limit r h.wire).2 }) := rfl

/-- The network with other requests on record. -/
def Wire.recording (w : Wire) (sent : List Request) : Wire := { w with sent := sent }

/-- What a request gets does not depend on the request. -/
theorem plain_recording (listens : Bool) (r r' : Request) (w : Wire) (sent : List Request) :
    ∃ sent', plain (ρ := ρ) listens r' (w.recording sent) =
      ((plain (ρ := ρ) listens r w).1, (plain (ρ := ρ) listens r w).2.recording sent') := by
  obtain ⟨answers, old, canceled⟩ := w
  refine ⟨r' :: sent, ?_⟩
  cases answers with
  | nil => cases listens <;> cases canceled <;> rfl
  | cons a rest => cases a <;> cases listens <;> cases canceled <;> rfl

theorem readBody_recording (limit : Option Nat) (r : Reply) (w : Wire) (sent : List Request) :
    readBody (ρ := ρ) limit r (w.recording sent) =
      ((readBody (ρ := ρ) limit r w).1, (readBody (ρ := ρ) limit r w).2.recording sent) := by
  simp only [readBody, HasWire.wire, HasWire.setWire, id, Wire.readBody, Wire.recording]
  cases limit with
  | none => cases r.ending <;> rfl
  | some n =>
    dsimp only
    split_ifs
    · rfl
    · cases r.ending <;> rfl

/-- Two requests to the same place are redirected in the same way. -/
theorem follow_recording (listens : Bool) {first first' : Request}
    (hfirst : first'.method = first.method) (fuel : Nat) (withheld withheld' : Withheld)
    {r r' : Request} (hmethod : r'.method = r.method) (hurl : r'.url = r.url) (w : Wire)
    (sent : List Request) :
    ∃ sent', follow (plain (ρ := ρ) listens) first' fuel withheld' r' (w.recording sent) =
      ((follow (plain (ρ := ρ) listens) first fuel withheld r w).1,
        (follow (plain (ρ := ρ) listens) first fuel withheld r w).2.recording sent') := by
  induction fuel generalizing withheld withheld' r r' w sent with
  | zero =>
    refine ⟨sent, ?_⟩
    rw [follow, follow, hfirst, hurl]
  | succ fuel ih =>
    obtain ⟨sent₁, hsend⟩ := plain_recording (ρ := ρ) listens (signed r) (signed r') w sent
    rw [follow, follow, hsend, hfirst, hmethod, hurl]
    obtain ⟨f | reply, w₁⟩ := plain (ρ := ρ) listens (signed r) w
    · exact ⟨sent₁, rfl⟩
    · dsimp only
      cases redirected? r.method reply.status with
      | none => exact ⟨sent₁, rfl⟩
      | some next =>
        obtain ⟨method, keepsForm⟩ := next
        cases reply.header "Location" with
        | nil => exact ⟨sent₁, rfl⟩
        | cons b location =>
          dsimp only
          cases Url.parse (b :: location) with
          | error e => exact ⟨sent₁, rfl⟩
          | ok ref =>
            have hskim : discard skimLimit reply (w₁.recording sent₁) =
                (discard skimLimit reply w₁).recording sent₁ :=
              congrArg (·.2) (readBody_recording (ρ := Empty) (some skimLimit) reply w₁ sent₁)
            dsimp only
            rw [hskim]
            split_ifs
            · exact ⟨sent₁, rfl⟩
            · refine ih _ _ ?_ ?_ _ _
              · rfl
              · rfl

theorem run_recording (listens : Bool) {r r' : Request} (hmethod : r'.method = r.method)
    (hurl : r'.url = r.url) (w : Wire) (sent : List Request) :
    ∃ sent', run (plain (ρ := ρ) listens) r' (w.recording sent) =
      ((run (plain (ρ := ρ) listens) r w).1,
        (run (plain (ρ := ρ) listens) r w).2.recording sent') :=
  follow_recording listens hmethod maxRedirects _ _ hmethod hurl w sent

end DocPull.Http
