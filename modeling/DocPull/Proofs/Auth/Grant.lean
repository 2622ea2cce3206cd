import DocPull.Proofs.Auth.TokenFile
import DocPull.Proofs.Auth.TokenPage

/-!
# Granted tokens

Whatever a token page answers, a token that is granted is sound and has an access token, and asking
for it touches the network only. A grant that is refused is at most a cancellation; it is none of
the kinds of failure that signing in has.
-/
namespace DocPull.Auth

open Http Json

variable {now : Instant}

theorem expiryAfter_nanos (now : Instant) (seconds : Int) :
    (expiryAfter now seconds).nanos < 1000000000 := by
  unfold expiryAfter
  split_ifs
  · decide
  · exact Instant.laterNanos_lt now _

theorem expiryAfter_offset (now : Instant) (seconds : Int) :
    (expiryAfter now seconds).offset % 60 = 0 ∨ (expiryAfter now seconds).offset = now.offset := by
  unfold expiryAfter
  split_ifs
  · exact .inl (by decide)
  · exact .inr rfl

theorem lifetime_fits {s : Bytes} {n : Int} (h : readLifetime.lifetime s = some n) :
    Numeral.Fits n := by
  unfold readLifetime.lifetime at h
  obtain ⟨m, -, rfl⟩ := Option.map_eq_some_iff.mp h
  have hlow := Int.le_bmod (x := m) (m := 0x100000000) (by decide)
  have hhigh := Int.bmod_lt (x := m) (m := 0x100000000) (by decide)
  unfold Numeral.Fits maxLifetime
  split_ifs <;> omega

theorem readLifetime_fits {old n : Int} {j : Json} (hold : Numeral.Fits old)
    (h : readLifetime old j = some n) : Numeral.Fits n := by
  unfold readLifetime at h
  split at h
  · cases h
    exact hold
  · exact lifetime_fits h
  · dsimp only at h
    split at h
    · exact lifetime_fits h
    · cases h
  · cases h

theorem readDocument_fits {j : Json} {d : TokenDocument} (h : readDocument j = some d) :
    Numeral.Fits d.lifetime := by
  refine toRecord_keeps (P := fun d : TokenDocument => Numeral.Fits d.lifetime) ?_ ?_ h
  · intro f hf d j d' hd hread
    fin_cases hf
    all_goals
      obtain ⟨v, hv, rfl⟩ := Option.map_eq_some_iff.mp hread
    any_goals exact hd
    exact readLifetime_fits hd hv
  · exact Numeral.fits_zero

theorem replyOfJson_sound {body : Bytes} {r : GrantReply} (h : replyOfJson now body = some r) :
    r.grant.token.Sound now := by
  simp only [replyOfJson, Option.bind_eq_bind, Option.bind_eq_some_iff] at h
  obtain ⟨j, -, d, hd, hr⟩ := h
  cases hr
  exact ⟨readDocument_fits hd, expiryAfter_nanos now _, expiryAfter_offset now _⟩

theorem replyOfQuery_sound (now : Instant) (ps : Query.Params) :
    (replyOfQuery now ps).grant.token.Sound now :=
  ⟨Numeral.fits_zero, expiryAfter_nanos now _, expiryAfter_offset now _⟩

/-- A granted token is sound, and it has an access token. -/
theorem readGrant_ok {reply : Reply} {body : Bytes} {g : Grant}
    (h : readGrant now reply body = .ok g) : g.token.Sound now ∧ g.token.accessToken ≠ [] := by
  simp only [readGrant, bind, Except.bind, pure, Except.pure, throw, throwThe,
    MonadExceptOf.throw] at h
  split at h
  · split at h
    · rename_i ps _
      split_ifs at h with _ _ haccess
      cases h
      exact ⟨replyOfQuery_sound now ps, haccess⟩
    · cases h
  · split at h
    · rename_i r hreply
      split_ifs at h with _ _ haccess
      cases h
      exact ⟨replyOfJson_sound hreply, haccess⟩
    · cases h

/-- What an exchange does: it touches the network only, and a token it grants can be used. -/
structure Granted {α : Type} (token : α → Token) (h : Host) (r : Except GrantError α × Host) :
    Prop where
  onlyWire : OnlyWire h r.2
  ok : ∀ a, r.1 = .ok a → (token a).Sound h.now ∧ (token a).accessToken ≠ []

namespace Granted

theorem error {α : Type} {token : α → Token} {h h₁ : Host} (hw : OnlyWire h h₁) (e : GrantError) :
    Granted token h (.error e, h₁) :=
  ⟨hw, by rintro a ⟨⟩⟩

/-- A result that is only wrapped differently stays a granted one. -/
theorem map {α β : Type} {token : α → Token} {token' : β → Token} {h : Host}
    {r : Except GrantError α × Host} (hr : Granted token h r) (f : α → β)
    (hf : ∀ a, (token a).Sound h.now ∧ (token a).accessToken ≠ [] →
      (token' (f a)).Sound h.now ∧ (token' (f a)).accessToken ≠ []) :
    Granted token' h (r.1.map f, r.2) := by
  refine ⟨hr.onlyWire, fun b hb => ?_⟩
  obtain ⟨a, ha, rfl⟩ := Outcome.map_eq_ok.mp hb
  exact hf a (hr.ok a ha)

end Granted

theorem exchange_granted (listens : Bool) (id : Identity) (params : Query.Params) (h : Host) :
    Granted (fun p : Grant × Identity => p.1.token) h (exchange listens id params h) := by
  obtain ⟨x, w, hx, hs⟩ := exchange_cases listens id params h
  rw [hx]
  refine ⟨⟨w, rfl, (hs.advances (P := fun _ => True) fun _ _ _ _ _ => trivial).suffix⟩, ?_⟩
  rintro ⟨g, id'⟩ rfl
  obtain ⟨reply, -, hgrant⟩ := hs.of_ok
  exact readGrant_ok hgrant

theorem renew_granted (listens : Bool) (id : Identity) (refreshToken : Bytes) (h : Host) :
    Granted (fun p : Token × Identity => p.1) h (renew listens id refreshToken h) := by
  by_cases hempty : refreshToken = []
  · rw [renew, if_pos hempty]
    exact .error (.refl h) _
  · rw [renew_eq listens id hempty]
    refine (exchange_granted listens id _ h).map _ ?_
    rintro ⟨g, id'⟩ ⟨hsound, haccess⟩
    dsimp only [keeping]
    split_ifs
    · exact ⟨⟨hsound.lifetime, hsound.nanos, hsound.offset⟩, haccess⟩
    · exact ⟨hsound, haccess⟩

theorem redeem_granted (id : Identity) (code verifier : Bytes) (h : Host) :
    Granted Grant.token h (redeem id code verifier h) := by
  unfold redeem
  exact (exchange_granted true id _ h).map _ fun _ hg => hg

/-- A refused grant is at most a cancellation. -/
theorem GrantError.isA_canceled {e : GrantError} {k : FailureKind} (h : Failure.isA e k = true) :
    k = .canceled := by
  cases e with
  | client e =>
    obtain ⟨method, url, cause⟩ := e
    cases cause with
    | fault f =>
      cases f with
      | canceled => exact beq_iff_eq.mp h
      | failed m => cases h
      | refused e => exact e.elim
    | tooManyRedirects => cases h
    | badLocation location e => cases h
  | _ => cases h

end DocPull.Auth
