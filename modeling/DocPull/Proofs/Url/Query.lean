import DocPull.Proofs.Text.Line
import DocPull.Proofs.Url.Escape
import DocPull.Url.Query
import Mathlib.Data.List.Perm.Basic

/-!
# Queries read back

No name and no value can bring a separator into a query, since escaping writes none. So reading a
written query gives the pairs it was written from, in order of their names, and nothing else.
-/
namespace DocPull.Query

variable {p : Bytes × Bytes} {ps : Params}

theorem insert_perm (p : Bytes × Bytes) (ps : Params) : (insert p ps).Perm (p :: ps) := by
  induction ps with
  | nil => exact .refl _
  | cons q ps ih =>
    rw [insert]
    split_ifs
    · exact .refl _
    · exact (ih.cons q).trans (.swap p q ps)

/-- Sorting keeps the pairs. -/
theorem sort_perm (ps : Params) : (sort ps).Perm ps := by
  have hfold : ∀ sorted : Params,
      (ps.foldl (fun sorted p => insert p sorted) sorted).Perm (sorted ++ ps) := by
    induction ps with
    | nil => simp
    | cons p ps ih =>
      intro sorted
      rw [List.foldl_cons]
      refine (ih _).trans (((insert_perm p sorted).append_right ps).trans ?_)
      exact List.perm_middle.symm
  simpa [sort] using hfold []

/-- The signs between the pairs of a query, and within them. -/
def isSeparator (b : UInt8) : Bool := b == byte '&' || b == byte '=' || b == byte ';'

theorem not_mem_escape {b : UInt8} (h : isSeparator b = true) (s : Bytes) :
    b ∉ Url.escape .query s := by
  intro hmem
  have hquery := Url.isQueryByte_of_mem_escape hmem
  have hall : ∀ b, isSeparator b = true → Url.isQueryByte b = false :=
    Bytes.forall_byte (by decide +kernel)
  rw [hall b h] at hquery
  cases hquery

theorem unescape_escape (s : Bytes) : Url.unescape .query (Url.escape .query s) = .ok s :=
  Url.unescape_escape ⟨by decide, by decide⟩ s

theorem writePair_eq (p : Bytes × Bytes) :
    writePair p = Url.escape .query p.1 ++ byte '=' :: Url.escape .query p.2 := by
  simp [writePair, show utf8 "=" = [byte '='] from rfl]

theorem cut_writePair (p : Bytes × Bytes) :
    Bytes.cut (byte '=') (writePair p) =
      some (Url.escape .query p.1, Url.escape .query p.2) := by
  rw [writePair_eq]
  exact Bytes.cut_append _ (not_mem_escape (by decide) p.1)

theorem not_mem_writePair {b : UInt8} (h : isSeparator b = true) (hne : b ≠ byte '=')
    (p : Bytes × Bytes) : b ∉ writePair p := by
  rw [writePair_eq]
  simp [not_mem_escape h, hne]

theorem readPair_writePair (p : Bytes × Bytes) : readPair (writePair p) = some p := by
  have hne : writePair p ≠ [] := by simp [writePair_eq]
  have hsemicolon : byte ';' ∉ writePair p := not_mem_writePair (by decide) (by decide) p
  rw [readPair, if_neg (by simp [hne, hsemicolon]), cut_writePair]
  simp [unescape_escape]

theorem badEscape?_writePair (p : Bytes × Bytes) : badEscape? (writePair p) = none := by
  rw [badEscape?, cut_writePair]
  simp [unescape_escape]

/-- A query is written in bytes that need no escape, the signs of escapes, and separators. -/
theorem mem_write {b : UInt8} (h : b ∈ write ps) :
    Url.isQueryByte b = true ∨ b = byte '=' ∨ b = byte '&' := by
  rcases Bytes.mem_join h with rfl | ⟨part, hpart, hb⟩
  · exact .inr (.inr rfl)
  · obtain ⟨p, -, rfl⟩ := List.mem_map.mp hpart
    rw [writePair_eq, List.mem_append, List.mem_cons] at hb
    rcases hb with hname | rfl | hvalue
    · exact .inl (Url.isQueryByte_of_mem_escape hname)
    · exact .inr (.inl rfl)
    · exact .inl (Url.isQueryByte_of_mem_escape hvalue)

theorem tooLong_write (h : ps.length ≤ maxPairs) : tooLong (write ps) = false := by
  have hparts : ∀ part ∈ (sort ps).map writePair, byte '&' ∉ part := by
    intro part hpart
    obtain ⟨p, -, rfl⟩ := List.mem_map.mp hpart
    exact not_mem_writePair (by decide) (by decide) p
  have hcount : (write ps).count (byte '&') = ps.length - 1 := by
    rw [write, show utf8 "&" = [byte '&'] from rfl, Bytes.count_join hparts, List.length_map,
      (sort_perm ps).length_eq]
  have hmax : 1 ≤ maxPairs := by decide
  simp only [tooLong, hcount, decide_eq_false_iff_not]
  omega

theorem split_write (h : ps ≠ []) :
    Bytes.split (byte '&') (write ps) = (sort ps).map writePair := by
  have hne : (sort ps).map writePair ≠ [] := by
    intro hnil
    have hempty := List.map_eq_nil_iff.mp hnil
    exact h (List.nil_perm.mp (hempty ▸ sort_perm ps))
  refine Bytes.split_join hne ?_
  intro part hpart
  obtain ⟨p, -, rfl⟩ := List.mem_map.mp hpart
  exact not_mem_writePair (by decide) (by decide) p

theorem parse_write (hne : ps ≠ []) (hlen : ps.length ≤ maxPairs) : parse (write ps) = sort ps := by
  rw [parse, tooLong_write hlen, split_write hne, List.filterMap_map]
  simp [readPair_writePair]

/-- A written query is read strictly as the pairs it was written from. -/
theorem parseStrict_write (hne : ps ≠ []) (hlen : ps.length ≤ maxPairs) :
    parseStrict (write ps) = .ok (sort ps) := by
  have hsemicolon : byte ';' ∉ write ps := by
    intro hmem
    exact absurd (mem_write hmem) (by decide)
  have hescapes : (Bytes.split (byte '&') (write ps)).findSome? badEscape? = none := by
    rw [split_write hne, List.findSome?_map]
    simp [Function.comp_def, badEscape?_writePair]
  rw [parseStrict, tooLong_write hlen, hescapes, parse_write hne hlen]
  simp [hsemicolon]

end DocPull.Query
