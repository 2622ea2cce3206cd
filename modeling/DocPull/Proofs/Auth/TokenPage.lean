import DocPull.Auth.Grant
import DocPull.Proofs.Http.Wire
import DocPull.Proofs.Outcome

/-!
# What an exchange can do

An exchange asks the token page once in the style that is known, or twice when none is known and the
first try fails. What it reads and what it changes is the network; so all that it can do is said
over the network alone, and whatever else is to be known of an exchange follows from that.
-/
namespace DocPull.Auth

open Http

section

variable {listens : Bool} {id : Identity} {style : Int} {params : Query.Params} {now : Instant}
  {w : Wire}

/-- Everything that one try can come to, with the network that it leaves. -/
inductive Tried (listens : Bool) (id : Identity) (style : Int) (params : Query.Params)
    (now : Instant) (w : Wire) : Except GrantError Grant → Wire → Prop
  | unsent {e : Url.ParseError} (hr : grantRequest id style params = .error e) :
      Tried listens id style params now w (.error (.badUrl e)) w
  | unanswered {r : Request} {e : ClientError Empty} {w₁ : Wire}
      (hr : grantRequest id style params = .ok r)
      (hrun : run (plain listens) r w = (.error e, w₁)) :
      Tried listens id style params now w (.error (.client e)) w₁
  | unread {r : Request} {reply : Reply} {f : Fault Empty} {w₁ w₂ : Wire}
      (hr : grantRequest id style params = .ok r)
      (hrun : run (plain (ρ := Empty) listens) r w = (.ok reply, w₁))
      (hread : readBody (some maxGrantBody) reply w₁ = (.error f, w₂)) :
      Tried listens id style params now w (.error (.body f)) w₂
  | read {r : Request} {reply : Reply} {body : Bytes} {x : Except GrantError Grant} {w₁ w₂ : Wire}
      (hr : grantRequest id style params = .ok r)
      (hrun : run (plain (ρ := Empty) listens) r w = (.ok reply, w₁))
      (hread : readBody (ρ := Empty) (some maxGrantBody) reply w₁ = (.ok body, w₂))
      (hgrant : readGrant now reply body = x) : Tried listens id style params now w x w₂

theorem exists_tried (listens : Bool) (id : Identity) (style : Int) (params : Query.Params)
    (now : Instant) (w : Wire) : ∃ x w', Tried listens id style params now w x w' := by
  cases hr : grantRequest id style params with
  | error e => exact ⟨_, _, .unsent hr⟩
  | ok r =>
    rcases hrun : run (plain (ρ := Empty) listens) r w with ⟨e | reply, w₁⟩
    · exact ⟨_, _, .unanswered hr hrun⟩
    · rcases hread : readBody (ρ := Empty) (some maxGrantBody) reply w₁ with ⟨f | body, w₂⟩
      · exact ⟨_, _, .unread hr hrun hread⟩
      · exact ⟨_, _, .read hr hrun hread rfl⟩

/-- One try does what can be done over the network of its world. -/
theorem Tried.eq {h : Host} {x : Except GrantError Grant} {w' : Wire}
    (ht : Tried listens id style params h.now h.wire x w') :
    exchangeOnce listens id style params h = (x, { h with wire := w' }) := by
  unfold exchangeOnce
  cases ht with
  | unsent hr => rw [hr]
  | unanswered hr hrun =>
    rw [hr]
    dsimp only
    rw [run_eq_wire, hrun]
  | unread hr hrun hread =>
    rw [hr]
    dsimp only
    rw [run_eq_wire, hrun]
    dsimp only
    rw [readBody_eq_wire, hread]
  | read hr hrun hread hgrant =>
    rw [hr]
    dsimp only
    rw [run_eq_wire, hrun]
    dsimp only
    rw [readBody_eq_wire, hread]
    dsimp only
    rw [hgrant]

/-- A try puts its request on record, and what else it puts there carries the request's form or
none. -/
theorem Tried.made {x : Except GrantError Grant} {w' : Wire}
    (ht : Tried listens id style params now w x w') {r : Request}
    (hr : grantRequest id style params = .ok r) :
    signed r :: w.sent <:+ w'.sent ∧ Advances (CarriesOnly r.form) w w' := by
  have hran : ∀ {x w₁}, run (plain (ρ := Empty) listens) r w = (x, w₁) →
      signed r :: w.sent <:+ w₁.sent ∧ Advances (CarriesOnly r.form) w w₁ := by
    intro x w₁ hrun
    have hsent := run_sent (ρ := Empty) listens r w
    have hanswered := (run_answered (ρ := Empty) listens r w).advances
    rw [hrun] at hsent hanswered
    exact ⟨hsent, hanswered⟩
  have hgot : ∀ {reply x w₁ w₂}, run (plain (ρ := Empty) listens) r w = (.ok reply, w₁) →
      readBody (ρ := Empty) (some maxGrantBody) reply w₁ = (x, w₂) →
        signed r :: w.sent <:+ w₂.sent ∧ Advances (CarriesOnly r.form) w w₂ := by
    intro reply x w₁ w₂ hrun hread
    obtain ⟨hsent, hanswered⟩ := hran hrun
    have hbody := readBody_advances (ρ := Empty) (P := CarriesOnly r.form) (some maxGrantBody)
      reply w₁
    rw [hread] at hbody
    exact ⟨hsent.trans hbody.suffix, hanswered.trans hbody⟩
  cases ht with
  | unsent hnone => cases hr.symm.trans hnone
  | unanswered hr' hrun =>
    cases hr.symm.trans hr'
    exact hran hrun
  | unread hr' hrun hread =>
    cases hr.symm.trans hr'
    exact hgot hrun hread
  | read hr' hrun hread _ =>
    cases hr.symm.trans hr'
    exact hgot hrun hread

theorem Tried.advances {P : Request → Prop} {x : Except GrantError Grant} {w' : Wire}
    (ht : Tried listens id style params now w x w')
    (hP : ∀ r, grantRequest id style params = .ok r → ∀ q, CarriesOnly r.form q → P q) :
    Advances P w w' := by
  cases hr : grantRequest id style params with
  | ok r => exact (ht.made hr).2.mono (hP r hr)
  | error e =>
    cases ht with
    | unsent _ => exact .refl w
    | unanswered hr' _ => cases hr.symm.trans hr'
    | unread hr' _ _ => cases hr.symm.trans hr'
    | read hr' _ _ _ => cases hr.symm.trans hr'

/-- What a try grants is what the last answer says. No more than the start of its body is read. -/
theorem Tried.of_ok {g : Grant} {w' : Wire} (ht : Tried listens id style params now w (.ok g) w') :
    ∃ reply, .reply reply :: w'.answers <:+ w.answers ∧
      readGrant now reply (reply.body.take maxGrantBody) = .ok g := by
  cases ht with
  | @read r reply body _ w₁ _ hr hrun hread hgrant =>
    have hlast := (run_answered (ρ := Empty) listens r w).last reply
    have hanswers := readBody_answers (ρ := Empty) (some maxGrantBody) reply w₁
    have htake := @take_of_readBody Empty maxGrantBody reply w₁ body
    rw [hrun] at hlast
    rw [hread] at hanswers htake
    rw [htake rfl] at hgrant
    exact ⟨reply, hanswers ▸ hlast rfl, hgrant⟩

/-- Everything that an exchange can come to, with the network that it leaves. -/
inductive Settled (listens : Bool) (id : Identity) (params : Query.Params) (now : Instant)
    (w : Wire) : Except GrantError (Grant × Identity) → Wire → Prop
  | known {x : Except GrantError Grant} {w' : Wire} (hstyle : id.endpoint.style ≠ 0)
      (ht : Tried listens id id.endpoint.style params now w x w') :
      Settled listens id params now w (x.map (·, id)) w'
  | unsent {e : Url.ParseError} (hstyle : id.endpoint.style = 0)
      (hr : grantRequest id 2 params = .error e) :
      Settled listens id params now w (.error (.badUrl e)) w
  | first {r : Request} {g : Grant} {w' : Wire} (hstyle : id.endpoint.style = 0)
      (hr : grantRequest id 2 params = .ok r) (ht : Tried listens id 2 params now w (.ok g) w') :
      Settled listens id params now w (.ok (g, id.withStyle 2)) w'
  | second {r : Request} {e : GrantError} {x : Except GrantError Grant} {w₁ w' : Wire}
      (hstyle : id.endpoint.style = 0) (hr : grantRequest id 2 params = .ok r)
      (hfailed : Tried listens id 2 params now w (.error e) w₁)
      (ht : Tried listens id 1 params now w₁ x w') :
      Settled listens id params now w (x.map (·, id.withStyle 1)) w'

theorem exists_settled (listens : Bool) (id : Identity) (params : Query.Params) (now : Instant)
    (w : Wire) : ∃ x w', Settled listens id params now w x w' := by
  by_cases hstyle : id.endpoint.style = 0
  · cases hr : grantRequest id 2 params with
    | error e => exact ⟨_, _, .unsent hstyle hr⟩
    | ok r =>
      obtain ⟨e | g, w₁, hfirst⟩ := exists_tried listens id 2 params now w
      · obtain ⟨x, w', hsecond⟩ := exists_tried listens id 1 params now w₁
        exact ⟨_, _, .second hstyle hr hfirst hsecond⟩
      · exact ⟨_, _, .first hstyle hr hfirst⟩
  · obtain ⟨x, w', ht⟩ := exists_tried listens id id.endpoint.style params now w
    exact ⟨_, _, .known hstyle ht⟩

section

variable {x : Except GrantError (Grant × Identity)} {w' : Wire}

/-- An exchange does what can be done over the network of its world. -/
theorem Settled.eq {h : Host} (hs : Settled listens id params h.now h.wire x w') :
    exchange listens id params h = (x, { h with wire := w' }) := by
  unfold exchange
  cases hs with
  | known hstyle ht => rw [if_pos hstyle, ht.eq]
  | unsent hstyle hr => rw [if_neg (not_not.mpr hstyle), hr]
  | first hstyle hr ht =>
    rw [if_neg (not_not.mpr hstyle), hr]
    dsimp only
    rw [ht.eq]
  | @second _ _ _ w₁ _ hstyle hr hfailed ht =>
    rw [if_neg (not_not.mpr hstyle), hr]
    dsimp only
    rw [hfailed.eq]
    dsimp only
    rw [Tried.eq (h := { h with wire := w₁ }) ht]

theorem exchange_cases (listens : Bool) (id : Identity) (params : Query.Params) (h : Host) :
    ∃ x w', exchange listens id params h = (x, { h with wire := w' }) ∧
      Settled listens id params h.now h.wire x w' := by
  obtain ⟨x, w', hs⟩ := exists_settled listens id params h.now h.wire
  exact ⟨x, w', hs.eq, hs⟩

/-- An exchange makes requests that carry the form of one of its tries, or none. -/
theorem Settled.advances {P : Request → Prop} (hs : Settled listens id params now w x w')
    (hP : ∀ style r, grantRequest id style params = .ok r → ∀ q, CarriesOnly r.form q → P q) :
    Advances P w w' := by
  cases hs with
  | known _ ht => exact ht.advances (hP _)
  | unsent _ _ => exact .refl w
  | first _ _ ht => exact ht.advances (hP _)
  | second _ _ hfailed ht => exact (hfailed.advances (hP _)).trans (ht.advances (hP _))

/-- What an exchange grants is what the last answer says. -/
theorem Settled.of_ok {g : Grant} {id' : Identity}
    (hs : Settled listens id params now w (.ok (g, id')) w') :
    ∃ reply, .reply reply :: w'.answers <:+ w.answers ∧
      readGrant now reply (reply.body.take maxGrantBody) = .ok g := by
  generalize hx : Except.ok (g, id') = x at hs
  cases hs with
  | known _ ht =>
    obtain ⟨g, rfl, ⟨⟩⟩ := Outcome.map_eq_ok.mp hx.symm
    exact ht.of_ok
  | unsent _ _ => cases hx
  | first _ _ ht =>
    cases hx
    exact ht.of_ok
  | second _ _ hfailed ht =>
    obtain ⟨g, rfl, ⟨⟩⟩ := Outcome.map_eq_ok.mp hx.symm
    obtain ⟨reply, hlast, hgrant⟩ := ht.of_ok
    have hbefore := hfailed.advances (P := fun _ => True) fun _ _ _ _ => trivial
    exact ⟨reply, hlast.trans hbefore.answers, hgrant⟩

end

end

/-- The parameters that renew a token. -/
def renewing (refreshToken : Bytes) : Query.Params :=
  [(utf8 "grant_type", utf8 "refresh_token"), (utf8 "refresh_token", refreshToken)]

/-- The token of a grant, which keeps the old refresh token when it comes with no new one. -/
def keeping (refreshToken : Bytes) (p : Grant × Identity) : Token × Identity :=
  let t := p.1.token
  (if t.refreshToken = [] then { t with refreshToken := refreshToken } else t, p.2)

/-- Renewing a token is one exchange. -/
theorem renew_eq (listens : Bool) (id : Identity) {refreshToken : Bytes}
    (hne : refreshToken ≠ []) (h : Host) :
    renew listens id refreshToken h =
      ((exchange listens id (renewing refreshToken) h).1.map (keeping refreshToken),
        (exchange listens id (renewing refreshToken) h).2) := by
  rw [renew, if_neg hne, ← renewing]
  dsimp only
  obtain ⟨e | ⟨g, id'⟩, h₁⟩ := exchange listens id (renewing refreshToken) h
  · rfl
  · rfl

end DocPull.Auth
