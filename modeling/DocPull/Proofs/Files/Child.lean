import DocPull.Proofs.Export.Download
import DocPull.Proofs.Files.Closed
import DocPull.Proofs.Files.Confined

/-!
# Entries of the working directory

A name that is no more than the name of an entry leads to that entry of the working directory. A
write to it makes no directories, so it changes this entry and nothing else.
-/
open DocPull.Files.Tree

namespace DocPull

namespace Files

variable {name : Bytes}

theorem dir_of_entryName (h : IsEntryName name) : Path.dir name = utf8 "." := by
  have hcut : Bytes.cutLast (byte '/') name = none := by
    simpa [Bytes.cutLast, Bytes.cut_eq_none_iff] using h.no_slash
  rw [Path.dir, hcut]

theorem place_of_entryName (h : IsEntryName name) : place name = [name] := by
  have hstart : start name = [] := by
    refine if_neg fun hhead => h.no_slash ?_
    exact List.mem_of_mem_head? hhead
  rw [place, named_of_no_slash h.ne_nil h.no_slash, hstart, List.foldl_cons, List.foldl_nil,
    stepTo_entry _ h, List.nil_append]

theorem isInside_of_entryName (h : IsEntryName name) : isInside [name] = true := by
  have hanchor := isAnchor_concat [] h
  simp only [isAnchor, List.nil_append, Bool.or_eq_false_iff] at hanchor
  simp [isInside, hanchor.1.2, hanchor.2, bne]

/-- Nothing but the working directory encloses it. -/
theorem eq_of_encloses_dot {outer : Bytes} (h : Encloses outer (utf8 ".")) : outer = utf8 "." := by
  generalize hdot : utf8 "." = dir at h
  cases h with
  | self => rfl
  | above hparent _ =>
    subst hdot
    cases hparent

/-- A write to an entry of the working directory leaves every other place as it was. -/
theorem get?_of_confined {t u : Tree} (h : IsEntryName name) (hu : Confined [name] t u)
    {l : Location} (hl : l ≠ [name]) : u.get? l = t.get? l := by
  rcases hu.rest l with
    hsame | ⟨⟨path, hpath, hloc⟩, -⟩ | ⟨hnone, -, path, hpath, outer, henc, hloc⟩
  · exact hsame
  · rw [List.mem_singleton] at hpath
    subst hpath
    rw [locate_eq_place hloc, place_of_entryName h] at hl
    exact absurd rfl hl
  · -- The working directory is always there.
    rw [List.mem_singleton] at hpath
    subst hpath
    rw [dir_of_entryName h] at henc
    have hhere : l = [] := by
      rw [locate_eq_place hloc, eq_of_encloses_dot henc]
      rfl
    rw [hhere, get?_anchor t rfl] at hnone
    cases hnone

end Files

namespace Download

open Files

variable {φ σ ε : Type}

/-- The tree after a watched download is the one before, or the one after the write. -/
theorem run_watched_tree (q : Quotients φ) (src : ChunkSource σ ε) (note : Progress φ → σ → σ)
    (digits : Nat → Bytes) (t : Files.Tree) (dest : Bytes) (chunkSize : Int) (w : σ) :
    let ended := run q (watched src) (recording note) digits dest chunkSize ⟨w, t, []⟩
    Confined [dest] t ended.2.tree := by
  simp only [run, pullAll_watched]
  cases hp : Stream.pullAll q src note chunkSize w with
  | mk r rest =>
    obtain ⟨s, w₁⟩ := rest
    cases r with
    | error e => exact .refl _ t
    | ok x =>
      have hwritten := writeFile_confined none t dest s.content fileMode dirMode digits
      dsimp only [HasTree.tree]
      split <;> exact hwritten

end Download

end DocPull
