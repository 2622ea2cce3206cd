import DocPull.Export.FileName
import DocPull.Proofs.Files.Child
import DocPull.Proofs.Text.Fold

/-!
# File names are plain

Whatever a title holds, and whatever its normalization makes of it, the file name made from it names
an entry of the working directory: separators, control characters and stray bytes are gone once the
normalization is over, and neither the replacement of an unusable name nor the extension brings one
back.
-/
namespace DocPull.FileName

open TextUnit Files

/-- Whether a byte may stand in a plain file name. -/
def isNameByte (b : UInt8) : Bool :=
  b != byte '/' && b != byte '\\' && 0x20 ≤ b && b != 0x7F

/-- UTF-8 text without separators and control characters. -/
structure IsClean (s : Bytes) : Prop where
  bytes : ∀ b ∈ s, isNameByte b = true
  valid : TextUnit.valid s = true

namespace IsClean

variable {s t : Bytes}

theorem nil : IsClean [] := ⟨nofun, rfl⟩

theorem append (hs : IsClean s) (ht : IsClean t) : IsClean (s ++ t) := by
  refine ⟨fun b hb => ?_, valid_append hs.valid ht.valid⟩
  rcases List.mem_append.mp hb with hb | hb
  · exact hs.bytes b hb
  · exact ht.bytes b hb

theorem flatMap {α : Type} {f : α → Bytes} {l : List α} (h : ∀ a ∈ l, IsClean (f a)) :
    IsClean (l.flatMap f) := by
  induction l with
  | nil => exact .nil
  | cons a l ih =>
    obtain ⟨ha, hl⟩ := List.forall_mem_cons.mp h
    exact ha.append (ih hl)

/-- ASCII text is clean when its bytes are. -/
theorem of_ascii (h : ∀ b ∈ s, isNameByte b = true ∧ b < 0x80) : IsClean s :=
  ⟨fun b hb => (h b hb).1, valid_of_ascii fun b hb => (h b hb).2⟩

theorem encode {c : Char} (hslash : c ≠ '/') (hback : c ≠ '\\')
    (hcontrol : ¬(c.toNat < 0x20 ∨ c.toNat = 0x7F)) : IsClean (String.utf8EncodeChar c) := by
  constructor
  · intro b hb
    by_cases hascii : c.toNat < 0x80
    · have hall : ∀ n < 0x80, Char.ofNat n ≠ '/' → Char.ofNat n ≠ '\\' →
          ¬((Char.ofNat n).toNat < 0x20 ∨ (Char.ofNat n).toNat = 0x7F) →
          (String.utf8EncodeChar (Char.ofNat n)).all isNameByte = true := by decide +kernel
      have hc := hall c.toNat hascii
      rw [Char.ofNat_toNat] at hc
      exact List.all_eq_true.mp (hc hslash hback hcontrol) b hb
    · have hle := le_of_mem_encode (not_lt.mp hascii) hb
      have hall : ∀ b : UInt8, 0x80 ≤ b.toNat → isNameByte b = true :=
        Bytes.forall_byte (by decide +kernel)
      exact hall b hle
  · have hvalid := valid_encode_append c []
    rwa [List.append_nil] at hvalid

end IsClean

theorem isClean_sanitizeUnit (u : TextUnit) : IsClean (sanitizeUnit u) := by
  unfold sanitizeUnit
  dsimp only
  split_ifs with hseparator hcontrol
  · exact .of_ascii (Bytes.forall_mem (by decide))
  · exact .nil
  · rw [not_or] at hseparator
    exact .encode hseparator.1 hseparator.2 hcontrol

theorem isClean_sanitize (title : Bytes) : IsClean (sanitize title) :=
  .flatMap fun u _ => isClean_sanitizeUnit u

/-- A clean name that stands for an entry of a directory. -/
structure IsPlainName (name : Bytes) : Prop extends IsClean name where
  ne_nil : name ≠ []
  ne_dot : name ≠ utf8 "."
  ne_dots : name ≠ utf8 ".."

theorem IsPlainName.entryName {name : Bytes} (h : IsPlainName name) : IsEntryName name :=
  ⟨h.ne_nil, h.ne_dot, h.ne_dots, fun hmem => absurd (h.bytes _ hmem) (by decide)⟩

theorem isPlainName_usable {name : Bytes} (h : IsClean name) : IsPlainName (usable name) := by
  unfold usable
  split_ifs with hunusable
  · exact ⟨.of_ascii (Bytes.forall_mem (by decide)), by decide, by decide, by decide⟩
  · simp only [not_or] at hunusable
    exact ⟨h, hunusable.1, hunusable.2.1, hunusable.2.2⟩

/-- A dot with small letters behind it. -/
structure IsExtension (ext : Bytes) : Prop where
  head : ext.head? = some (byte '.')
  letters : ∀ b ∈ ext.tail, 0x61 ≤ b ∧ b ≤ 0x7A

theorem isExtension_extension {mimeType : Bytes} (h : extension mimeType ≠ []) :
    IsExtension (extension mimeType) := by
  have hall : ∀ e ∈ extensions, (utf8 e.2).head? = some (byte '.') ∧
      ((utf8 e.2).tail.all fun b => 0x61 ≤ b ∧ b ≤ 0x7A) = true := by decide
  unfold extension at h ⊢
  cases hfind : extensions.find? fun e => utf8 e.1 == mimeType with
  | none => simp [hfind] at h
  | some e =>
    obtain ⟨hhead, hletters⟩ := hall e (List.mem_of_find?_eq_some hfind)
    exact ⟨hhead, Bytes.forall_mem hletters⟩

namespace IsExtension

variable {ext : Bytes}

theorem eq_cons (h : IsExtension ext) : ext = byte '.' :: ext.tail :=
  List.eq_cons_of_mem_head? h.head

theorem dot_not_mem (h : IsExtension ext) : byte '.' ∉ ext.tail := fun hmem =>
  absurd (h.letters _ hmem) (by decide)

/-- The bytes of an extension are ASCII, stand in names, and are no capitals. -/
theorem bytes (h : IsExtension ext) : ∀ b ∈ ext, isNameByte b = true ∧ b < 0x80 ∧
    Fold.fold (.char (Char.ofNat b.toNat)) = .char (Char.ofNat b.toNat) := by
  have hall : ∀ b : UInt8, b = byte '.' ∨ 0x61 ≤ b ∧ b ≤ 0x7A → isNameByte b = true ∧ b < 0x80 ∧
      Fold.fold (.char (Char.ofNat b.toNat)) = .char (Char.ofNat b.toNat) :=
    Bytes.forall_byte (by decide +kernel)
  intro b hb
  rw [h.eq_cons, List.mem_cons] at hb
  exact hall b (hb.imp_right (h.letters b))

theorem isClean (h : IsExtension ext) : IsClean ext :=
  .of_ascii fun b hb => ⟨(h.bytes b hb).1, (h.bytes b hb).2.1⟩

theorem folded (h : IsExtension ext) : (read ext).map Fold.fold = read ext := by
  rw [read_ascii fun b hb => (h.bytes b hb).2.1, List.map_map]
  exact List.map_congr_left fun b hb => (h.bytes b hb).2.2

end IsExtension

/-- Whether a name is an extension from its last dot on, up to case. -/
def EndsIn (name ext : Bytes) : Prop :=
  ∃ stem last, name = stem ++ byte '.' :: last ∧ byte '.' ∉ last ∧
    Fold.IsVariant (byte '.' :: last) ext

theorem endsIn_of_same {name ext : Bytes} (hname : byte '/' ∉ name) (hext : IsExtension ext)
    (h : Fold.same (Path.extension name) ext = true) : EndsIn name ext := by
  have hslash : Bytes.cutLast (byte '/') name = none := by
    simpa [Bytes.cutLast, Bytes.cut_eq_none_iff] using hname
  have hvariant := Fold.isVariant_of_same hext.isClean.valid hext.folded h
  simp only [Path.extension, hslash] at h hvariant
  cases hdot : Bytes.cutLast (byte '.') name with
  | none =>
    -- The extension has a character to be the same as.
    rw [hdot] at h
    have hread : (read ext).map Fold.fold = [] := (eq_of_beq h).symm
    have hne : ext ≠ [] := hext.eq_cons ▸ List.cons_ne_nil _ _
    exact absurd (List.map_eq_nil_iff.mp hread) (Blank.read_ne_nil hne)
  | some parts =>
    obtain ⟨stem, last⟩ := parts
    rw [hdot] at hvariant
    obtain ⟨hsplit, hlast⟩ := Bytes.cutLast_eq_some hdot
    exact ⟨stem, last, hsplit, hlast, hvariant⟩

theorem endsIn_append (name : Bytes) {ext : Bytes} (h : IsExtension ext) :
    EndsIn (name ++ ext) ext := by
  refine ⟨name, ext.tail, ?_, h.dot_not_mem, ?_⟩
  · rw [← h.eq_cons]
  · rw [← h.eq_cons]
    exact Fold.isVariant_refl h.isClean.valid

/-- An extension makes no plain name unusable. -/
theorem isPlainName_append {name ext : Bytes} (hname : IsPlainName name) (hext : IsExtension ext) :
    IsPlainName (name ++ ext) := by
  obtain ⟨b, rest, rfl⟩ := List.exists_cons_of_ne_nil hname.ne_nil
  refine ⟨hname.toIsClean.append hext.isClean, List.cons_ne_nil _ _, ?_, ?_⟩
  · intro hdot
    have hlength := congrArg List.length hdot
    rw [hext.eq_cons, List.length_append, List.length_cons, List.length_cons] at hlength
    have hone : (utf8 ".").length = 1 := by decide
    omega
  · intro hdots
    cases rest with
    | nil =>
      -- Before the dot of the extension there is another one.
      have hb : b = byte '.' := (List.cons.inj hdots).1
      exact hname.ne_dot (by rw [hb]; rfl)
    | cons c rest =>
      have hlength := congrArg List.length hdots
      rw [hext.eq_cons, List.length_append, List.length_cons, List.length_cons,
        List.length_cons] at hlength
      have htwo : (utf8 "..").length = 2 := by decide
      omega

theorem withExtension_spec {name ext : Bytes} (hname : IsPlainName name)
    (hext : ext ≠ [] → IsExtension ext) :
    IsPlainName (withExtension name ext) ∧ (ext ≠ [] → EndsIn (withExtension name ext) ext) := by
  unfold withExtension
  split_ifs with hsame
  · refine ⟨hname, fun hne => ?_⟩
    exact endsIn_of_same hname.entryName.no_slash (hext hne) (hsame.resolve_left hne)
  · rw [not_or] at hsame
    have hknown := hext hsame.1
    exact ⟨isPlainName_append hname hknown, fun _ => endsIn_append name hknown⟩

theorem ofTitle_spec (normalize : Bytes → Bytes) (title mimeType : Bytes) :
    IsPlainName (ofTitle normalize title mimeType) ∧
      (extension mimeType ≠ [] →
        EndsIn (ofTitle normalize title mimeType) (extension mimeType)) :=
  withExtension_spec (isPlainName_usable (isClean_sanitize _)) isExtension_extension

/-- For every title, format and normalization of titles. The file name is not empty and not one or
two dots, it is UTF-8 without separators and control characters, and where the format has an
extension, it ends in this extension, up to case. A download to it changes one place only: the entry
of that name in the working directory, which has the content once the download has succeeded. -/
theorem ofTitle_plain (normalize : Bytes → Bytes) (title mimeType : Bytes) :
    let name := ofTitle normalize title mimeType
    (name ≠ [] ∧ name ≠ utf8 "." ∧ name ≠ utf8 "..") ∧
    (∀ b ∈ name, b ≠ byte '/' ∧ b ≠ byte '\\' ∧ 0x20 ≤ b ∧ b ≠ 0x7F) ∧
    TextUnit.valid name = true ∧
    (extension mimeType ≠ [] → EndsIn name (extension mimeType)) ∧
    isInside [name] = true ∧
    ∀ {φ σ ε : Type} (q : Quotients φ) (src : ChunkSource σ ε) (note : Progress φ → σ → σ)
      (digits : Nat → Bytes) (t : Files.Tree) (chunkSize : Int) (w : σ),
      let ended := Download.run q (Download.watched src) (Download.recording note) digits name
        chunkSize ⟨w, t, []⟩
      (∀ r, ended.1 = .ok r →
        ∃ content, ended.2.tree.get? [name] = some (.file 0o644 content)) ∧
      ∀ l, l ≠ [name] → ended.2.tree.get? l = t.get? l := by
  intro name
  obtain ⟨hplain, hends⟩ := ofTitle_spec normalize title mimeType
  have hentry := hplain.entryName
  refine ⟨⟨hplain.ne_nil, hplain.ne_dot, hplain.ne_dots⟩, ?_, hplain.valid, hends,
    isInside_of_entryName hentry, ?_⟩
  · intro b hb
    have hname := hplain.bytes b hb
    simpa [isNameByte, and_assoc] using hname
  · intro φ σ ε q src note digits t chunkSize w ended
    refine ⟨?_, ?_⟩
    · intro r hr
      obtain ⟨-, ⟨e, hstream, -⟩ | ⟨e, hwrite, -⟩ | ⟨s, w₁, l, -, -, hloc, hreplaces⟩⟩ :=
        Download.run_watched_cases q src note digits t name chunkSize w
      · cases hr.symm.trans hstream
      · cases hr.symm.trans hwrite
      · rw [Tree.locate_eq_place hloc, place_of_entryName hentry] at hreplaces
        exact ⟨_, hreplaces.here⟩
    · intro l hl
      exact get?_of_confined hentry
        (Download.run_watched_tree q src note digits t name chunkSize w) hl

/-- A title that would lead out of the working directory, with a control character and a stray
byte in it. -/
def hostileTitle : Bytes := utf8 "../\\etc\x00\x7f." ++ [0xFF] ++ utf8 ".PDF"

theorem hostileTitle_plain :
    extension "application/pdf" ≠ [] ∧
    EndsIn (ofTitle id hostileTitle "application/pdf") ".pdf" ∧
    ofTitle id hostileTitle "application/pdf" = utf8 "..__etc.\ufffd.PDF" :=
  have hknown : extension "application/pdf" ≠ [] := by decide
  ⟨hknown, (ofTitle_plain id hostileTitle "application/pdf").2.2.2.1 hknown, by decide +kernel⟩

end DocPull.FileName
