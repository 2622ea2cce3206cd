import DocPull.Proofs.Text.Blank
import DocPull.Text.Normal
import Mathlib.Data.List.Chain

/-!
# Composed form

The composed form of a sequence of code points, as Unicode defines it: every code point is fully
decomposed, the marks behind each starter are ordered by their classes, and the starter takes up
what composes with it unless a mark between the two blocks it. A sequence is in composed form when
all this leaves it as it is.

The form of a sequence is not the form of its pieces, since a mark may come to stand behind a
starter that takes it up. It is so before a code point that opens a new piece, and around one that
is inert: that neither decomposes nor composes, and that nothing decomposes to.
-/
namespace DocPull.Composed

open CombiningClass Decomposition Segment

/-- The code point that two code points compose to. -/
def primary? (a b : Nat) : Option Nat :=
  (Normal.syllable? a b).or ((composites.find? fun e => e.2 == (a, b)).map (·.1))

/-- Puts a code point before others, but behind the marks there that have smaller classes. -/
def place (c : Nat) : List Nat → List Nat
  | [] => [c]
  | d :: l => if 0 < classOf d ∧ classOf d < classOf c then d :: place c l else c :: d :: l

/-- Orders the marks behind every starter by class, keeping the order within a class. -/
def order (cs : List Nat) : List Nat := cs.foldr place []

/-- Whether marks, with the last one first, keep a code point from the starter before them. -/
def blocked (c : Nat) : List Nat → Bool
  | [] => false
  | m :: _ => classOf c ≤ classOf m

/-- Composes what follows a starter and the marks behind it that it did not take up. These have the
last one first. -/
def absorb (base : Nat) (marks : List Nat) : List Nat → List Nat
  | [] => base :: marks.reverse
  | c :: l =>
    match if blocked c marks then none else primary? base c with
    | some d => absorb d marks l
    | none =>
      if classOf c = 0 then base :: (marks.reverse ++ absorb c [] l)
      else absorb base (c :: marks) l

/-- Composes code points in canonical order. -/
def compose : List Nat → List Nat
  | [] => []
  | c :: l => if classOf c = 0 then absorb c [] l else c :: compose l

/-- The composed form of code points. -/
def canonical (cs : List Nat) : List Nat := compose (order (cs.flatMap decompose))

/-- Whether code points are in composed form. -/
def InForm (cs : List Nat) : Prop := canonical cs = cs

instance : DecidablePred InForm := fun cs => inferInstanceAs (Decidable (canonical cs = cs))

/-- Whether some code point composes with this one behind it. -/
def isTakenUp (b : Nat) : Bool :=
  (vowelBase ≤ b && b < vowelBase + 21) || (trailBase < b && b < trailBase + 28) ||
    composites.any (·.2.2 == b)

/-- Whether a code point begins with a starter that nothing before it takes up. -/
def opens (c : Nat) : Bool :=
  match decompose c with
  | [] => false
  | e :: _ => classOf e == 0 && !isTakenUp e

/-- A code point without a decomposition that is part of no other code point. -/
structure IsInert (c : Nat) : Prop where
  small : c < 0xC0
  first : ∀ e ∈ composites, e.2.1 ≠ c
  part : ∀ e ∈ oneWayEntries.map unpackParts, c ∉ e.2

section Tables

theorem composites_bounds : ∀ e ∈ composites, 0xC0 ≤ e.1 ∧ 0x300 ≤ e.2.2 := by decide +kernel

theorem classOf_of_lt {c : Nat} (h : c < 0x300) : classOf c = 0 := if_pos h

theorem isSyllable_iff {c : Nat} :
    isSyllable c = true ↔ syllableBase ≤ c ∧ c < syllableBase + 11172 := by
  rw [isSyllable, Bool.and_eq_true, decide_eq_true_iff, decide_eq_true_iff]

theorem not_isSyllable_of_lt {c : Nat} (h : c < 0xC0) : ¬isSyllable c = true := by
  rw [isSyllable_iff, syllableBase]
  omega

theorem decompose_of_lt {c : Nat} (h : c < 0xC0) : decompose c = [c] := by
  have hsyllable := not_isSyllable_of_lt h
  rw [decompose, decompose.go, if_neg hsyllable, parts?, if_pos h]

theorem primary?_eq_none {a b : Nat} (h : isTakenUp b = false) : primary? a b = none := by
  simp only [isTakenUp, Bool.or_eq_false_iff, Bool.and_eq_false_iff, decide_eq_false_iff_not] at h
  obtain ⟨⟨hvowel, htrail⟩, hsecond⟩ := h
  have hsyllable : Normal.syllable? a b = none := by
    unfold Normal.syllable?
    rw [if_neg (by omega), if_neg (by omega)]
  have hfind : (composites.find? fun e => e.2 == (a, b)) = none := by
    refine List.find?_eq_none.mpr fun e he heq => ?_
    have hb := List.any_eq_false.mp hsecond e he
    simp only [beq_iff_eq] at hb heq
    exact hb (congrArg Prod.snd heq)
  rw [primary?, hsyllable, hfind]
  rfl

theorem le_of_primary? {a b c : Nat} (h : primary? a b = some c) : 0xC0 ≤ c := by
  rw [primary?, Option.or_eq_some_iff] at h
  rcases h with h | ⟨-, h⟩
  · unfold Normal.syllable? at h
    split_ifs at h with hlead htrail
    · have hc := Option.some.inj h
      simp only [syllableBase] at hc
      omega
    · have hc := Option.some.inj h
      rw [isSyllable_iff, syllableBase] at htrail
      omega
  · obtain ⟨e, he, rfl⟩ := Option.map_eq_some_iff.mp h
    exact (composites_bounds e (List.mem_of_find?_eq_some he)).1

/-- What is found beside a number stands there in the table. -/
theorem mem_of_beside? {α : Type} {table : Array (Nat × α)} {n : Nat} {a : α}
    (h : Lookup.beside? table n = some a) : (n, a) ∈ table := by
  obtain ⟨⟨found, b⟩, hlast, hfound⟩ := Option.bind_eq_some_iff.mp h
  dsimp only at hfound
  split_ifs at hfound with hn
  cases hfound
  subst hn
  unfold Lookup.last? at hlast
  split at hlast
  · cases hlast
  · exact Array.mem_of_getElem? hlast

end Tables

namespace IsInert

variable {c : Nat}

theorem primary?_eq_none (h : IsInert c) (b : Nat) : primary? c b = none := by
  have hlead : ¬leadBase ≤ c := by
    have hsmall := h.small
    rw [leadBase]
    omega
  have hsyllable : Normal.syllable? c b = none := by
    unfold Normal.syllable?
    rw [if_neg fun hl => hlead hl.1, if_neg fun hs => not_isSyllable_of_lt h.small hs.1]
  have hfind : (composites.find? fun e => e.2 == (c, b)) = none := by
    refine List.find?_eq_none.mpr fun e he heq => ?_
    exact h.first e he (congrArg Prod.fst (eq_of_beq heq))
  rw [primary?, hsyllable, hfind]
  rfl

theorem not_mem_parts (h : IsInert c) {d : Nat} {ps : List Nat} (hps : parts? d = some ps) :
    c ∉ ps := by
  unfold parts? at hps
  split_ifs at hps
  split at hps
  · rename_i first second hbeside
    cases hps
    have hmem : (d, first, second) ∈ composites := by
      simpa [compositeParts] using mem_of_beside? hbeside
    intro hc
    have hsmall := h.small
    have hsecond := (composites_bounds _ hmem).2
    rcases List.mem_pair.mp hc with rfl | rfl
    · exact h.first _ hmem rfl
    · dsimp only at hsecond
      omega
  · have hmem : (d, ps) ∈ oneWayEntries.map unpackParts := by
      simpa [oneWay] using mem_of_beside? hps
    exact h.part _ hmem

theorem eq_of_mem_decompose (h : IsInert c) {d : Nat} (hc : c ∈ decompose d) : c = d := by
  have hgo : ∀ depth d, c ∈ decompose.go depth d → c = d := by
    intro depth
    induction depth with
    | zero =>
      intro d hc
      exact List.mem_singleton.mp hc
    | succ depth ih =>
      intro d hc
      rw [decompose.go] at hc
      split_ifs at hc with hsyllable
      · -- The letters of a syllable lie far above.
        have hsmall := h.small
        simp only [letters, leadBase, vowelBase, trailBase] at hc
        split_ifs at hc <;>
          simp only [List.mem_append, List.mem_cons, List.not_mem_nil, or_false] at hc <;> omega
      · split at hc
        · rename_i ps hps
          obtain ⟨p, hp, hcp⟩ := List.mem_flatMap.mp hc
          exact absurd (ih p hcp ▸ hp) (h.not_mem_parts hps)
        · exact List.mem_singleton.mp hc
  exact hgo 4 d hc

end IsInert

section Order

theorem place_starter {c : Nat} (h : classOf c = 0) (l : List Nat) : place c l = c :: l := by
  cases l with
  | nil => rfl
  | cons d l => rw [place, h, if_neg (by omega)]

/-- No mark moves across a starter. -/
theorem place_append (c : Nat) (l : List Nat) {d : Nat} (hd : classOf d = 0) (r : List Nat) :
    place c (l ++ d :: r) = place c l ++ d :: r := by
  induction l with
  | nil => simp [place, hd]
  | cons e l ih =>
    simp only [List.cons_append, place]
    split_ifs
    · rw [ih, List.cons_append]
    · rfl

theorem order_append (l : List Nat) {d : Nat} (hd : classOf d = 0) (r : List Nat) :
    order (l ++ d :: r) = order l ++ d :: order r := by
  induction l with
  | nil => exact place_starter hd (order r)
  | cons c l ih =>
    have hstep : order (c :: l ++ d :: r) = place c (order (l ++ d :: r)) := rfl
    rw [hstep, ih, place_append c _ hd]
    rfl

theorem place_perm (c : Nat) (l : List Nat) : (place c l).Perm (c :: l) := by
  induction l with
  | nil => exact .refl _
  | cons d l ih =>
    rw [place]
    split_ifs
    · exact (ih.cons d).trans (.swap c d l)
    · exact .refl _

theorem order_perm (cs : List Nat) : (order cs).Perm cs := by
  induction cs with
  | nil => exact .refl _
  | cons c cs ih => exact (place_perm c (order cs)).trans (ih.cons c)

end Order

section Compose

/-- A starter that nothing takes up ends what was composed before it. -/
theorem absorb_append (base : Nat) (marks l : List Nat) {d : Nat} (hd : classOf d = 0)
    (htaken : isTakenUp d = false) (r : List Nat) :
    absorb base marks (l ++ d :: r) = absorb base marks l ++ absorb d [] r := by
  induction l generalizing base marks with
  | nil =>
    simp only [List.nil_append, absorb, primary?_eq_none htaken, ite_self, hd, if_true,
      List.cons_append]
  | cons c l ih =>
    simp only [List.cons_append, absorb]
    split
    · exact ih _ _
    · split_ifs
      · rw [ih, List.cons_append, List.append_assoc]
      · exact ih _ _

theorem compose_append (l : List Nat) {d : Nat} (hd : classOf d = 0)
    (htaken : isTakenUp d = false) (r : List Nat) :
    compose (l ++ d :: r) = compose l ++ compose (d :: r) := by
  have hopen : compose (d :: r) = absorb d [] r := if_pos hd
  induction l with
  | nil => rfl
  | cons c l ih =>
    simp only [List.cons_append, compose]
    split_ifs
    · rw [absorb_append _ _ _ hd htaken]
    · rw [ih, List.cons_append, hopen]

/-- What follows an inert starter is composed on its own. -/
theorem absorb_inert {base : Nat} (h : IsInert base) (marks l : List Nat) :
    absorb base marks l = base :: (marks.reverse ++ compose l) := by
  induction l generalizing marks with
  | nil => simp [absorb, compose]
  | cons c l ih =>
    simp only [absorb, h.primary?_eq_none, ite_self, compose]
    split_ifs
    · rfl
    · rw [ih, List.reverse_cons, List.append_assoc]
      rfl

/-- Composition brings forth no small code points. -/
theorem mem_absorb {base : Nat} {marks l : List Nat} {e : Nat} (hsmall : e < 0xC0)
    (h : e ∈ absorb base marks l) : e ∈ base :: (marks ++ l) := by
  induction l generalizing base marks with
  | nil => simpa [absorb] using h
  | cons c l ih =>
    rw [absorb] at h
    split at h
    · rename_i d hd
      split_ifs at hd
      have hlarge := le_of_primary? hd
      have hmem := ih h
      simp only [List.mem_cons, List.mem_append] at hmem ⊢
      rcases hmem with rfl | hmem
      · omega
      · tauto
    · split_ifs at h
      · have hmem := @ih c []
        simp only [List.mem_cons, List.mem_append, List.mem_reverse, List.nil_append] at h hmem ⊢
        tauto
      · have hmem := ih h
        simp only [List.mem_cons, List.mem_append] at hmem ⊢
        tauto

theorem mem_compose {l : List Nat} {e : Nat} (hsmall : e < 0xC0) (h : e ∈ compose l) : e ∈ l := by
  induction l with
  | nil => exact h
  | cons c l ih =>
    rw [compose] at h
    split_ifs at h
    · exact mem_absorb hsmall h
    · exact List.mem_cons.mpr ((List.mem_cons.mp h).imp_right ih)

end Compose

section Canonical

variable {c d : Nat}

theorem exists_of_opens (h : opens d = true) :
    ∃ e rest, decompose d = e :: rest ∧ classOf e = 0 ∧ isTakenUp e = false := by
  unfold opens at h
  split at h
  · cases h
  · rename_i e rest hd
    simp only [Bool.and_eq_true, beq_iff_eq, Bool.not_eq_true'] at h
    exact ⟨e, rest, hd, h⟩

/-- The form of what stands before an opening code point does not depend on it. -/
theorem canonical_append (x : List Nat) (h : opens d = true) (y : List Nat) :
    canonical (x ++ d :: y) = canonical x ++ canonical (d :: y) := by
  obtain ⟨e, rest, hd, hclass, htaken⟩ := exists_of_opens h
  have hright : (d :: y).flatMap decompose = e :: (rest ++ y.flatMap decompose) := by
    rw [List.flatMap_cons, hd, List.cons_append]
  have hordered : order (e :: (rest ++ y.flatMap decompose)) =
      e :: order (rest ++ y.flatMap decompose) := place_starter hclass _
  rw [canonical, canonical, canonical, List.flatMap_append, hright, order_append _ hclass,
    compose_append _ hclass htaken, hordered]

theorem opens_of_lt (h : d < 0xC0) : opens d = true := by
  have htaken : isTakenUp d = false := by
    have hvowel : vowelBase = 0x1161 := rfl
    have htrail : trailBase = 0x11A7 := rfl
    simp only [isTakenUp, Bool.or_eq_false_iff, Bool.and_eq_false_iff, decide_eq_false_iff_not,
      List.any_eq_false, beq_iff_eq]
    refine ⟨⟨by omega, by omega⟩, fun e he heq => ?_⟩
    have hsecond := (composites_bounds e he).2
    omega
  simp only [opens, decompose_of_lt h, classOf_of_lt (show d < 0x300 by omega), htaken]
  rfl

/-- Inert code points come from nothing else. -/
theorem mem_of_mem_canonical (h : IsInert c) {x : List Nat} (hc : c ∈ canonical x) : c ∈ x := by
  have hordered := mem_compose h.small hc
  obtain ⟨d, hd, hcd⟩ := List.mem_flatMap.mp ((order_perm _).mem_iff.mp hordered)
  rwa [h.eq_of_mem_decompose hcd]

/-- The pieces around an inert code point have their own forms. -/
theorem canonical_append_inert (h : IsInert c) (x y : List Nat) :
    canonical (x ++ c :: y) = canonical x ++ c :: canonical y := by
  have hclass : classOf c = 0 := classOf_of_lt (Nat.lt_trans h.small (by decide))
  have hcons : canonical (c :: y) = c :: canonical y := by
    have horder : order ((c :: y).flatMap decompose) = c :: order (y.flatMap decompose) := by
      rw [List.flatMap_cons, decompose_of_lt h.small]
      exact place_starter hclass _
    rw [canonical, horder, compose, if_pos hclass, absorb_inert h]
    rfl
  rw [canonical_append x (opens_of_lt h.small), hcons]

end Canonical

section InForm

/-- Small code points do not change. -/
theorem inForm_of_lt {cs : List Nat} (h : ∀ c ∈ cs, c < 0xC0) : InForm cs := by
  induction cs with
  | nil => rfl
  | cons c cs ih =>
    obtain ⟨hc, hcs⟩ := List.forall_mem_cons.mp h
    have hclass : classOf c = 0 := classOf_of_lt (Nat.lt_trans hc (by decide))
    have hone : canonical [c] = [c] := by
      simp [canonical, decompose_of_lt hc, order, place, compose, absorb, hclass]
    cases cs with
    | nil => exact hone
    | cons d cs =>
      have hd := opens_of_lt (hcs d List.mem_cons_self)
      rw [InForm, ← List.singleton_append, canonical_append [c] hd, hone, ih hcs]

/-- A list is split in one way at the first place where an element stands. -/
theorem append_cons_inj {α : Type} {a : α} {x x' y y' : List α} (hx : a ∉ x) (hx' : a ∉ x')
    (h : x ++ a :: y = x' ++ a :: y') : x = x' ∧ y = y' := by
  rcases List.append_eq_append_iff.mp h with ⟨z, rfl, hz⟩ | ⟨z, rfl, hz⟩
  all_goals
    cases z with
    | nil => simp_all
    | cons b z => simp_all

/-- A sequence is in form when its pieces before and behind an inert code point are, the first time
that it occurs. -/
theorem inForm_append_inert {c : Nat} (h : IsInert c) {x : List Nat} (hx : c ∉ x) (y : List Nat) :
    InForm (x ++ c :: y) ↔ InForm x ∧ InForm y := by
  have hcanonical : c ∉ canonical x := fun hc => hx (mem_of_mem_canonical h hc)
  rw [InForm, canonical_append_inert h]
  constructor
  · intro heq
    exact append_cons_inj hcanonical hx heq
  · rintro ⟨hformx, hformy⟩
    rw [hformx, hformy]

/-- Induction on the first place where a property holds. -/
theorem first_induction {α : Type} (p : α → Prop) {P : List α → Prop}
    (none : ∀ x, (∀ d ∈ x, ¬p d) → P x)
    (first : ∀ x c y, (∀ d ∈ x, ¬p d) → p c → P y → P (x ++ c :: y)) (cs : List α) : P cs := by
  have hgo : ∀ x, (∀ d ∈ x, ¬p d) → P (x ++ cs) := by
    induction cs with
    | nil =>
      intro x hx
      rw [List.append_nil]
      exact none x hx
    | cons c cs ih =>
      intro x hx
      by_cases hc : p c
      · exact first x c cs hx hc (ih [] nofun)
      · rw [List.append_cons]
        refine ih (x ++ [c]) fun d hd => ?_
        rcases List.mem_append.mp hd with hd | hd
        · exact hx d hd
        · rwa [List.mem_singleton.mp hd]
  exact hgo [] nofun

/-- Exchanging inert code points for one another keeps a sequence in form, or out of it. -/
theorem inForm_map_iff {f : Nat → Nat} (hinert : ∀ c, IsInert c → IsInert (f c))
    (hfix : ∀ c, ¬IsInert c → f c = c) (cs : List Nat) : InForm (cs.map f) ↔ InForm cs := by
  induction cs using first_induction IsInert with
  | none x hx => rw [List.map_congr_left fun d hd => hfix d (hx d hd), List.map_id']
  | first x c y hx hc ih =>
    have hmap : x.map f = x := by
      rw [List.map_congr_left fun d hd => hfix d (hx d hd), List.map_id']
    rw [List.map_append, List.map_cons, hmap,
      inForm_append_inert (hinert c hc) fun hmem => hx _ hmem (hinert c hc),
      inForm_append_inert hc fun hmem => hx _ hmem hc, ih]

theorem opens_of_mem_head? {p : Nat → Bool} {c d : Nat} {y : List Nat} (hc : p c = true)
    (hchain : (c :: y).IsChain fun a b => p a = true → opens b = true)
    (hd : d ∈ (y.filter fun b => !p b).head?) : opens d = true := by
  induction y generalizing c with
  | nil => cases hd
  | cons b y ih =>
    obtain ⟨hb, htail⟩ := List.isChain_cons_cons.mp hchain
    cases hp : p b with
    | true =>
      rw [List.filter_cons_of_neg (by simp [hp])] at hd
      exact ih hp htail hd
    | false =>
      rw [List.filter_cons_of_pos (by simp [hp]), List.head?_cons, Option.mem_some] at hd
      exact hd ▸ hb hc

/-- Inert code points may be left out where the next one opens a piece. -/
theorem inForm_filter {p : Nat → Bool} (hp : ∀ c, p c = true → IsInert c) {cs : List Nat}
    (h : InForm cs) (hchain : cs.IsChain fun a b => p a = true → opens b = true) :
    InForm (cs.filter fun c => !p c) := by
  induction cs using first_induction fun c => p c = true with
  | none x hx =>
    rwa [List.filter_eq_self.mpr fun d hd => by simpa using hx d hd]
  | first x c y hx hc ih =>
    obtain ⟨hformx, hformy⟩ := (inForm_append_inert (hp c hc) (fun hmem => hx c hmem hc) y).mp h
    have hchainy := hchain.right_of_append
    have hforms := ih hformy (List.isChain_cons.mp hchainy).2
    have hopens := fun d => @opens_of_mem_head? p c d y hc hchainy
    rw [List.filter_append, List.filter_cons_of_neg (by simp [hc]),
      List.filter_eq_self.mpr fun d hd => by simpa using hx d hd]
    cases hkept : y.filter fun b => !p b with
    | nil => rwa [List.append_nil]
    | cons d rest =>
      rw [hkept] at hforms hopens
      rw [InForm, canonical_append x (hopens d rfl), hformx, hforms]

end InForm

section Text

open TextUnit

/-- The code points of a text. A stray byte counts as the replacement character. -/
def points (s : Bytes) : List Nat := (read s).map fun u => u.shown.toNat

theorem points_append {s : Bytes} (h : TextUnit.valid s = true) (t : Bytes) :
    points (s ++ t) = points s ++ points t := by
  rw [points, read_append h, List.map_append]
  rfl

theorem points_encode_append (c : Char) (s : Bytes) :
    points (String.utf8EncodeChar c ++ s) = c.toNat :: points s := by
  rw [points, read_encode_append, List.map_cons]
  rfl

theorem points_ascii {s : Bytes} (h : ∀ b ∈ s, b < 0x80) : points s = s.map UInt8.toNat := by
  rw [points, read_ascii h, List.map_map]
  refine List.map_congr_left fun b _ => ?_
  have hall : ∀ b : UInt8, (Char.ofNat b.toNat).toNat = b.toNat :=
    Bytes.forall_byte (by decide +kernel)
  exact hall b

theorem inForm_ascii {s : Bytes} (h : ∀ b ∈ s, b < 0x80) : InForm (points s) := by
  rw [points_ascii h]
  refine inForm_of_lt fun c hc => ?_
  obtain ⟨b, hb, rfl⟩ := List.mem_map.mp hc
  exact Nat.lt_trans (UInt8.lt_iff_toNat_lt.mp (h b hb)) (by decide)

end Text

end DocPull.Composed
