import DocPull.Proofs.Auth.Grant
import DocPull.Proofs.Http.Wire
import DocPull.Proofs.Url.Query

/-!
# What a token page is asked, and what it says

Every request of an exchange carries the parameters of the exchange, with the client's identity
added, or no form at all. So an authorization code travels only in an exchange that was given one.
What is granted is what the last answer says.
-/
namespace DocPull.Auth

open Http

/-- Whether a request carries an authorization code. -/
def CarriesCode (r : Request) (code : Bytes) : Prop := (utf8 "code", code) ∈ r.form.getD []

/-- Whether the codes that a request carries are all among some parameters. -/
def Asks (params : Query.Params) (r : Request) : Prop :=
  ∀ code, CarriesCode r code → (utf8 "code", code) ∈ params

section Request

variable {id : Identity} {style : Int} {params : Query.Params} {r : Request}

/-- The client's identity is no code. -/
theorem grantRequest_form (h : grantRequest id style params = .ok r) :
    ∃ form, r.form = some form ∧
      ∀ code, (utf8 "code", code) ∈ form ↔ (utf8 "code", code) ∈ params := by
  obtain ⟨u, -, rfl⟩ := Outcome.map_eq_ok.mp h
  refine ⟨_, rfl, fun code => ?_⟩
  have hid : utf8 "code" ≠ utf8 "client_id" := by decide
  have hsecret : utf8 "code" ≠ utf8 "client_secret" := by decide
  rw [(Query.sort_perm _).mem_iff]
  split_ifs <;> simp [hid, hsecret]

theorem asks_of_carriesOnly (h : grantRequest id style params = .ok r) {q : Request}
    (hq : CarriesOnly r.form q) : Asks params q := by
  obtain ⟨form, hform, hcodes⟩ := grantRequest_form h
  intro code hcode
  rcases hq with hnone | hsame
  · rw [CarriesCode, hnone] at hcode
    cases hcode
  · rw [CarriesCode, hsame, hform] at hcode
    exact (hcodes code).mp hcode

/-- A code among the parameters is in the request. -/
theorem carriesCode_grantRequest (h : grantRequest id style params = .ok r) {code : Bytes}
    (hcode : (utf8 "code", code) ∈ params) : CarriesCode r code := by
  obtain ⟨form, hform, hcodes⟩ := grantRequest_form h
  rw [CarriesCode, hform]
  exact (hcodes code).mpr hcode

end Request

/-- Whether a reply grants a token. No more than the start of its body is read. -/
def Says (now : Instant) (reply : Reply) (g : Grant) : Prop :=
  readGrant now reply (reply.body.take maxGrantBody) = .ok g

/-- An exchange that ended: its requests are of a kind, and what it grants is what the last answer
says. -/
structure Exchanged {α : Type} (P : Request → Prop) (grant : α → Grant) (h : Host)
    (r : Except GrantError α × Host) : Prop where
  advances : Advances P h.wire r.2.wire
  said : ∀ a, r.1 = .ok a →
    ∃ reply, .reply reply :: r.2.wire.answers <:+ h.wire.answers ∧ Says h.now reply (grant a)

namespace Exchanged

variable {α β : Type} {P Q : Request → Prop} {grant : α → Grant} {h : Host}
  {r : Except GrantError α × Host}

theorem map {grant' : β → Grant} (hr : Exchanged P grant h r) (f : α → β)
    (hf : ∀ a, grant' (f a) = grant a) : Exchanged P grant' h (r.1.map f, r.2) := by
  refine ⟨hr.advances, fun b hb => ?_⟩
  obtain ⟨a, ha, rfl⟩ := Outcome.map_eq_ok.mp hb
  rw [hf]
  exact hr.said a ha

theorem mono (hr : Exchanged P grant h r) (hpq : ∀ q, P q → Q q) : Exchanged Q grant h r :=
  ⟨hr.advances.mono hpq, hr.said⟩

end Exchanged

theorem exchange_exchanged (listens : Bool) (id : Identity) (params : Query.Params) (h : Host) :
    Exchanged (Asks params) (fun p : Grant × Identity => p.1) h (exchange listens id params h) := by
  obtain ⟨x, w, hx, hs⟩ := exchange_cases listens id params h
  rw [hx]
  refine ⟨hs.advances fun style r hr q => asks_of_carriesOnly hr, ?_⟩
  rintro ⟨g, id'⟩ rfl
  exact hs.of_ok

/-- A code that is to be exchanged is sent, whatever comes of it. -/
theorem exchange_sends (listens : Bool) {id : Identity} {params : Query.Params} {u : Url}
    (hurl : Url.parse id.endpoint.tokenUrl = .ok u) {code : Bytes}
    (hcode : (utf8 "code", code) ∈ params) (h : Host) :
    ∃ r, CarriesCode r code ∧ r :: h.wire.sent <:+ (exchange listens id params h).2.wire.sent := by
  have hrequest : ∀ style, ∃ r, grantRequest id style params = .ok r := by
    intro style
    rw [grantRequest, hurl]
    exact ⟨_, rfl⟩
  have hcarries : ∀ style r, grantRequest id style params = .ok r →
      CarriesCode (signed r) code := by
    intro style r hr
    rw [CarriesCode, signed_form]
    exact carriesCode_grantRequest hr hcode
  obtain ⟨x, w, hx, hs⟩ := exchange_cases listens id params h
  rw [hx]
  cases hs with
  | known _ ht =>
    obtain ⟨r, hr⟩ := hrequest id.endpoint.style
    exact ⟨signed r, hcarries _ r hr, (ht.made hr).1⟩
  | unsent _ hnone =>
    obtain ⟨r, hr⟩ := hrequest 2
    cases hr.symm.trans hnone
  | first _ hr ht => exact ⟨_, hcarries _ _ hr, (ht.made hr).1⟩
  | second _ hr hfailed ht =>
    obtain ⟨r, hr'⟩ := hrequest 1
    have hmore := (List.suffix_cons _ _).trans (ht.made hr').1
    exact ⟨_, hcarries _ _ hr, (hfailed.made hr).1.trans hmore⟩

/-- Renewing a token sends no code. -/
theorem renew_advances (listens : Bool) (id : Identity) (refreshToken : Bytes) (h : Host) :
    Advances (fun r => ∀ code, ¬CarriesCode r code) h.wire
      (renew listens id refreshToken h).2.wire := by
  have hnone : ∀ r, Asks (renewing refreshToken) r → ∀ code, ¬CarriesCode r code := by
    intro r hr code hcode
    have hgrant : utf8 "code" ≠ utf8 "grant_type" := by decide
    have htoken : utf8 "code" ≠ utf8 "refresh_token" := by decide
    simpa [renewing, hgrant, htoken] using hr code hcode
  by_cases hempty : refreshToken = []
  · rw [renew, if_pos hempty]
    exact .refl h.wire
  · rw [renew_eq listens id hempty]
    exact (exchange_exchanged listens id _ h).advances.mono hnone

/-- Redeeming a code sends this code and no other. -/
theorem redeem_exchanged (id : Identity) (code verifier : Bytes) (h : Host) :
    Exchanged (fun r => ∀ sent, CarriesCode r sent → sent = code) (fun g => g) h
      (redeem id code verifier h) := by
  unfold redeem
  refine ((exchange_exchanged true id _ h).map (fun p => p.1) fun _ => rfl).mono ?_
  intro r hr sent hsent
  have hgrant : utf8 "code" ≠ utf8 "grant_type" := by decide
  have hredirect : utf8 "code" ≠ utf8 "redirect_uri" := by decide
  have hverifier : utf8 "code" ≠ utf8 "code_verifier" := by decide
  have hmem := hr sent hsent
  split_ifs at hmem <;> simpa [hgrant, hredirect, hverifier] using hmem

theorem redeem_sends {id : Identity} {u : Url} (hurl : Url.parse id.endpoint.tokenUrl = .ok u)
    (code verifier : Bytes) (h : Host) :
    ∃ r, CarriesCode r code ∧ r :: h.wire.sent <:+ (redeem id code verifier h).2.wire.sent := by
  unfold redeem
  exact exchange_sends true hurl (by simp) h

end DocPull.Auth
