import DocPull.Proofs.Export.FileName
import DocPull.Proofs.Text.Composed

/-!
# File names in composed form

A title is normalized before its separators are replaced and its control characters dropped. The
replacement and the extension keep a name in composed form. Dropping a control character does not
where it stood between a letter and a mark that the letter takes up.
-/
namespace DocPull.FileName

open TextUnit Composed

/-- Whether a code point has no place in file names. -/
def isControl (c : Nat) : Bool := c < 0x20 || c == 0x7F

/-- The code point that stands for one in a file name. -/
def replaced (c : Nat) : Nat := if c = 0x2F ∨ c = 0x5C then 0x5F else c

section Stages

/-- The characters that names do without, and the one that replaces separators, are inert. -/
theorem isInert_of_mem {c : Nat} (h : isControl c = true ∨ c ∈ [0x2F, 0x5C, 0x5F]) :
    IsInert c := by
  have hfirst : ∀ e ∈ Decomposition.composites,
      ¬(isControl e.2.1 = true ∨ e.2.1 ∈ [0x2F, 0x5C, 0x5F]) := by decide +kernel
  have hpart : ∀ e ∈ Decomposition.oneWayEntries.map Decomposition.unpackParts, ∀ d ∈ e.2,
      ¬(isControl d = true ∨ d ∈ [0x2F, 0x5C, 0x5F]) := by decide +kernel
  refine ⟨?_, fun e he heq => hfirst e he (heq ▸ h), fun e he hmem => hpart e he c hmem h⟩
  rcases h with h | h
  · simp only [isControl, Bool.or_eq_true, decide_eq_true_eq, beq_iff_eq] at h
    omega
  · simp only [List.mem_cons, List.not_mem_nil, or_false] at h
    omega

theorem inForm_replaced_iff (cs : List Nat) : InForm (cs.map replaced) ↔ InForm cs := by
  refine inForm_map_iff (fun c hc => ?_) (fun c hc => ?_) cs
  · unfold replaced
    split_ifs
    · exact isInert_of_mem (.inr (by decide))
    · exact hc
  · refine if_neg fun h => hc ?_
    rcases h with rfl | rfl <;> exact isInert_of_mem (.inr (by decide))

/-- What becomes of one code point of a title: a control character goes and a separator is
replaced. -/
theorem points_sanitizeUnit_append (u : TextUnit) (s : Bytes) :
    points (sanitizeUnit u ++ s) =
      ([u.shown.toNat].filter fun c => !isControl c).map replaced ++ points s := by
  unfold sanitizeUnit
  dsimp only
  split_ifs with hseparator hcontrol
  · have hbyte : utf8 "_" = String.utf8EncodeChar '_' := by decide
    rw [hbyte, points_encode_append]
    rcases hseparator with h | h <;> rw [h] <;> rfl
  · have hdropped : isControl u.shown.toNat = true := by
      simpa [isControl] using hcontrol
    rw [List.filter_cons_of_neg (by simp [hdropped])]
    rfl
  · have hkept : isControl u.shown.toNat = false := by
      simpa [isControl] using hcontrol
    have hsame : replaced u.shown.toNat = u.shown.toNat := if_neg fun h => hseparator
      (h.imp (fun h => Char.toNat_inj.mp h) fun h => Char.toNat_inj.mp h)
    rw [points_encode_append, List.filter_cons_of_pos (by simp [hkept]), List.map_cons, hsame]
    rfl

theorem points_sanitize (title : Bytes) :
    points (sanitize title) = ((points title).filter fun c => !isControl c).map replaced := by
  rw [sanitize, points.eq_def title]
  induction read title with
  | nil => rfl
  | cons u us ih =>
    rw [List.flatMap_cons, points_sanitizeUnit_append, ih, ← List.map_append, ← List.filter_append]
    rfl

theorem inForm_usable_iff (name : Bytes) :
    InForm (points (usable name)) ↔ InForm (points name) := by
  unfold usable
  split_ifs with hunusable
  · have hname : ∀ b ∈ name, b < 0x80 := by
      rcases hunusable with rfl | rfl | rfl <;> exact Bytes.forall_mem (by decide)
    exact iff_of_true (inForm_ascii (Bytes.forall_mem (by decide))) (inForm_ascii hname)
  · rfl

theorem inForm_withExtension_iff {name ext : Bytes} (hname : TextUnit.valid name = true)
    (hext : ext ≠ [] → IsExtension ext) :
    InForm (points (withExtension name ext)) ↔ InForm (points name) := by
  unfold withExtension
  split_ifs with hsame
  · rfl
  · have hknown := hext (not_or.mp hsame).1
    have hascii : ∀ b ∈ ext, b < 0x80 := fun b hb => (hknown.bytes b hb).2.1
    have hform := inForm_ascii hascii
    have hpoints : points ext = 0x2E :: ext.tail.map UInt8.toNat := by
      rw [points_ascii hascii, hknown.eq_cons]
      rfl
    have hopens : opens 0x2E = true := opens_of_lt (by decide)
    rw [points_append hname, InForm, hpoints, canonical_append _ hopens, ← hpoints, hform,
      List.append_left_inj]
    rfl

end Stages

/-- For every title, format and normalization of titles. The file name is in composed form exactly
when the normalized title without its control characters is. Where the normalized title is in
composed form, this is so unless a control character stands directly before a code point that
something before it may take up. -/
theorem ofTitle_inForm_iff (normalize : Bytes → Bytes) (title mimeType : Bytes) :
    let normal := points (normalize (Blank.trim title))
    let name := points (ofTitle normalize title mimeType)
    (InForm name ↔ InForm (normal.filter fun c => !isControl c)) ∧
    (InForm normal → (normal.IsChain fun c d => isControl c = true → opens d = true) →
      InForm name) := by
  intro normal name
  have hiff : InForm name ↔ InForm (normal.filter fun c => !isControl c) := by
    have hvalid := (isPlainName_usable (isClean_sanitize (normalize (Blank.trim title)))).valid
    simp only [name, normal, ofTitle]
    rw [inForm_withExtension_iff hvalid isExtension_extension, inForm_usable_iff, points_sanitize,
      inForm_replaced_iff]
  refine ⟨hiff, fun hform hchain => hiff.mpr ?_⟩
  exact inForm_filter (fun _ hc => isInert_of_mem (.inl hc)) hform hchain

/-- A letter and an accent that a control character keeps apart. -/
def partedTitle : Bytes := utf8 "e\x01\u0301"

/-- A title with a control character before a separator. -/
def tabbedTitle : Bytes := utf8 "caf\u00e9\t/plan"

theorem points_normal_titles :
    points (Normal.compositeForm (Blank.trim partedTitle)) = [0x65, 0x01, 0x301] ∧
    points (Normal.compositeForm (Blank.trim tabbedTitle)) =
      [0x63, 0x61, 0x66, 0xE9, 0x09, 0x2F, 0x70, 0x6C, 0x61, 0x6E] := by decide +kernel

/-- The accent joins the letter only when the control character between them has gone, which is
after the normalization. -/
theorem partedTitle_not_inForm :
    (InForm (points (Normal.compositeForm (Blank.trim partedTitle))) ∧
      ¬InForm (points (default partedTitle "text/plain"))) ∧
    InForm (points (Normal.compositeForm (Blank.trim tabbedTitle))) ∧
    ((points (Normal.compositeForm (Blank.trim tabbedTitle))).IsChain
      fun c d => isControl c = true → opens d = true) ∧
    InForm (points (default tabbedTitle "text/plain")) := by
  obtain ⟨hparted, htabbed⟩ := points_normal_titles
  have hform : InForm (points (Normal.compositeForm (Blank.trim tabbedTitle))) := by
    rw [htabbed]
    decide +kernel
  have hchain : (points (Normal.compositeForm (Blank.trim tabbedTitle))).IsChain
      fun c d => isControl c = true → opens d = true := by
    rw [htabbed]
    decide +kernel
  refine ⟨⟨?_, fun hname => ?_⟩, hform, hchain,
    (ofTitle_inForm_iff Normal.compositeForm tabbedTitle "text/plain").2 hform hchain⟩
  · rw [hparted]
    decide +kernel
  · have hkept := (ofTitle_inForm_iff Normal.compositeForm partedTitle "text/plain").1.mp hname
    rw [hparted] at hkept
    exact absurd hkept (by decide +kernel)

end DocPull.FileName
