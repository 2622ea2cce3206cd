import DocPull.Proofs.Text.Boundary
import DocPull.Table

/-!
# Columns of a table

A column is as wide as the longest of its cells in bytes, and no cell has more characters than
bytes. So every cell can be filled up to the width of its column in characters, and with the two
spaces after it the next one begins where its column does. This is true in every row, however long,
because spaces part the cells also where the bytes of a cell are no UTF-8.
-/
namespace DocPull.Table

open TextUnit

/-- The byte lengths of the cells that rows have in a column. -/
def columnLengths (rows : List (List Bytes)) (k : Nat) : Set Nat :=
  {n | ∃ row ∈ rows, ∃ cell, row[k]? = some cell ∧ cell.length = n}

theorem columnLengths_append (rows rows' : List (List Bytes)) (k : Nat) :
    columnLengths (rows ++ rows') k = columnLengths rows k ∪ columnLengths rows' k := by
  ext n
  simp only [columnLengths, List.mem_append, or_and_right, exists_or, Set.mem_ofPred_eq,
    Set.mem_union]

theorem columnLengths_singleton (row : List Bytes) (k : Nat) :
    columnLengths [row] k = {n | (lengths row)[k]? = some n} := by
  ext n
  simp [columnLengths, lengths]

/-- A table of widths that has one for each column of some rows, the largest length in it. -/
def IsWidths (rows : List (List Bytes)) (ws : List Nat) : Prop :=
  ∀ k, match ws[k]? with
    | some w => IsGreatest (columnLengths rows k) w
    | none => columnLengths rows k = ∅

theorem isWidths_lengths (row : List Bytes) : IsWidths [row] (lengths row) := by
  intro k
  rw [columnLengths_singleton]
  cases (lengths row)[k]? with
  | none => simp
  | some n => simp

theorem getElem?_widen (us vs : List Nat) (k : Nat) :
    (widen us vs)[k]? = Option.merge max us[k]? vs[k]? := by
  induction us, vs using widen.induct generalizing k with
  | case1 vs => simp [widen]
  | case2 us => simp [widen]
  | case3 u us v vs ih =>
    cases k with
    | zero => simp [widen]
    | succ k => simpa [widen] using ih k

theorem IsWidths.widen {rows rows' : List (List Bytes)} {us vs : List Nat} (h : IsWidths rows us)
    (h' : IsWidths rows' vs) : IsWidths (rows ++ rows') (widen us vs) := by
  intro k
  have hk := h k
  have hk' := h' k
  rw [columnLengths_append, getElem?_widen]
  cases hu : us[k]? with
  | none =>
    rw [hu] at hk
    dsimp only at hk
    rw [hk, Set.empty_union, Option.merge_none_left]
    exact hk'
  | some u =>
    rw [hu] at hk
    cases hv : vs[k]? with
    | none =>
      rw [hv] at hk'
      dsimp only at hk'
      rw [hk', Set.union_empty]
      exact hk
    | some v =>
      rw [hv] at hk'
      exact hk.union hk'

theorem isWidths_foldl {before : List (List Bytes)} {ws : List Nat} (h : IsWidths before ws)
    (rows : List (List Bytes)) :
    IsWidths (before ++ rows) (rows.foldl (fun ws row => widen ws (lengths row)) ws) := by
  induction rows generalizing before ws with
  | nil => simpa using h
  | cons row rows ih =>
    rw [List.append_cons]
    exact ih (h.widen (isWidths_lengths row))

theorem isWidths_widths (headers : List Bytes) (rows : List (List Bytes)) :
    IsWidths (headers :: rows) (widths headers rows) :=
  isWidths_foldl (isWidths_lengths headers) rows

namespace IsWidths

variable {rows : List (List Bytes)} {ws : List Nat}

theorem isGreatest (h : IsWidths rows ws) {k w : Nat} (hw : ws[k]? = some w) :
    IsGreatest (columnLengths rows k) w := by
  have hk := h k
  rwa [hw] at hk

/-- No row is longer than the table of widths. -/
theorem length_le (h : IsWidths rows ws) {row : List Bytes} (hrow : row ∈ rows) :
    row.length ≤ ws.length := by
  by_contra hlt
  have hcell : row[ws.length]? = some row[ws.length] := List.getElem?_eq_getElem (by omega)
  have hk := h ws.length
  rw [List.getElem?_eq_none le_rfl] at hk
  have hmem : row[ws.length].length ∈ columnLengths rows ws.length := ⟨row, hrow, _, hcell, rfl⟩
  rw [hk] at hmem
  exact hmem

end IsWidths

/-- Where a column begins, in characters: after the columns before it and two spaces behind each. -/
def offset (ws : List Nat) (i : Nat) : Nat := ((ws.take i).map (· + 2)).sum

@[simp] theorem offset_zero (ws : List Nat) : offset ws 0 = 0 := by simp [offset]

@[simp] theorem offset_cons_succ (w : Nat) (ws : List Nat) (i : Nat) :
    offset (w :: ws) (i + 1) = w + 2 + offset ws i := by simp [offset]

/-- A cell in its column of the text of a row. The text is read as what stands before the cell, the
cell, spaces, and what stands after them, which is where the next column begins or nothing. -/
structure Placed (ws : List Nat) (columns i : Nat) (cell line before : Bytes) (gap : Nat)
    (after : Bytes) : Prop where
  line_eq : line = before ++ cell ++ List.replicate gap (byte ' ') ++ after
  read_eq : read line = read before ++ read cell ++ List.replicate gap (.char ' ') ++ read after
  start : count before = offset ws i
  next : i + 1 < columns → count before + count cell + gap = offset ws (i + 1)
  last : i + 1 = columns → after = []

/-- Every cell of a row stands in its column. -/
def Aligned (ws : List Nat) (row : List Bytes) (line : Bytes) : Prop :=
  ∀ i cell, row[i]? = some cell →
    ∃ before gap after, Placed ws row.length i cell line before gap after

section Row

variable {w : Nat} {ws : List Nat} {cell : Bytes} {row : List Bytes}

theorem pad_eq (h : w ≤ maxWidth) (cell : Bytes) :
    pad w cell = cell ++ List.replicate (w - count cell) (byte ' ') := if_pos h

theorem fullRow_singleton (h : w ≤ maxWidth) (ws : List Nat) (cell : Bytes) :
    fullRow (w :: ws) [cell] = cell ++ List.replicate (w - count cell) (byte ' ') := by
  simp [fullRow, Bytes.join, pad_eq h]

/-- A cell with another one after it is filled up by two more spaces. -/
theorem fullRow_cons (h : w ≤ maxWidth) (cell : Bytes) (hrow : row ≠ [])
    (hlength : row.length ≤ ws.length) :
    fullRow (w :: ws) (cell :: row) =
      cell ++ List.replicate (w - count cell + 2) (byte ' ') ++ fullRow ws row := by
  obtain ⟨cell', row, rfl⟩ := List.exists_cons_of_ne_nil hrow
  obtain ⟨w', ws, rfl⟩ : ∃ w' ws', ws = w' :: ws' := by
    cases ws with
    | nil => simp at hlength
    | cons w' ws => exact ⟨w', ws, rfl⟩
  have htwo : utf8 "  " = List.replicate 2 (byte ' ') := rfl
  simp only [fullRow, Bytes.join, List.zipWith_cons_cons, List.intercalate_cons_cons, pad_eq h,
    List.replicate_add, htwo, List.append_assoc]

/-- A cell is followed by spaces up to the next column, and then by the text of what is left. -/
theorem count_filled (h : cell.length ≤ w) (line : Bytes) :
    count (cell ++ List.replicate (w - count cell + 2) (byte ' ') ++ line) =
      w + 2 + count line := by
  have hle := (count_le_length cell).trans h
  have hread := congrArg List.length
    (read_append_spaces cell (n := w - count cell + 2) (t := line) (by omega))
  simp only [List.length_append, List.length_replicate] at hread
  unfold count at hle hread ⊢
  omega

/-- The first cell of a row, with spaces after it when there are more. -/
theorem placed_zero {columns gap : Nat} {after : Bytes} (hgap : gap = 0 → after = [])
    (hnext : 1 < columns → count cell + gap = w + 2) (hlast : 1 = columns → after = []) :
    Placed (w :: ws) columns 0 cell (cell ++ List.replicate gap (byte ' ') ++ after) [] gap
      after where
  line_eq := rfl
  read_eq := read_append_spaces cell hgap
  start := (offset_zero _).symm
  next hcolumns := by
    have hwidth := hnext hcolumns
    rw [offset_cons_succ, offset_zero, show count [] = 0 from rfl]
    omega
  last := hlast

/-- A cell stays in its column when a column is put in front. -/
theorem Placed.after_cell {columns i gap : Nat} {first line before after : Bytes}
    (h : Placed ws columns i cell line before gap after) (hfirst : first.length ≤ w) :
    Placed (w :: ws) (columns + 1) (i + 1) cell
      (first ++ List.replicate (w - count first + 2) (byte ' ') ++ line)
      (first ++ List.replicate (w - count first + 2) (byte ' ') ++ before) gap after where
  line_eq := by
    rw [h.line_eq]
    simp only [List.append_assoc]
  read_eq := by
    rw [read_append_spaces first (by omega), read_append_spaces first (by omega), h.read_eq]
    simp only [List.append_assoc]
  start := by rw [count_filled hfirst, h.start, offset_cons_succ]
  next hi := by
    have hnext := h.next (by omega)
    rw [count_filled hfirst, offset_cons_succ]
    omega
  last hi := h.last (by omega)

/-- Every cell has a width that it does not exceed and that it can be filled up to. -/
def Fits (ws : List Nat) (row : List Bytes) : Prop :=
  ∀ (i : Nat) (cell : Bytes), row[i]? = some cell →
    ∃ w, ws[i]? = some w ∧ cell.length ≤ w ∧ w ≤ maxWidth

theorem Fits.length_le (h : Fits ws row) : row.length ≤ ws.length := by
  by_contra hlt
  obtain ⟨w, hw, -⟩ := h ws.length _ (List.getElem?_eq_getElem (by omega))
  rw [List.getElem?_eq_none le_rfl] at hw
  cases hw

theorem aligned_fullRow (h : Fits ws row) : Aligned ws row (fullRow ws row) := by
  induction row generalizing ws with
  | nil => exact nofun
  | cons first row ih =>
    obtain ⟨w, hw, hfirst, hwidth⟩ := h 0 first rfl
    cases ws with
    | nil => cases hw
    | cons w' ws =>
    obtain rfl : w' = w := by simpa using hw
    have hrest : Fits ws row := fun i cell hcell => h (i + 1) cell hcell
    have hle := (count_le_length first).trans hfirst
    intro i cell hcell
    rcases eq_or_ne row [] with rfl | hrow
    · cases i with
      | succ i => simp at hcell
      | zero =>
        obtain rfl : first = cell := by simpa using hcell
        rw [fullRow_singleton hwidth, ← List.append_nil (first ++ _)]
        exact ⟨[], _, [], placed_zero (fun _ => rfl) (by simp) fun _ => rfl⟩
    · rw [fullRow_cons hwidth first hrow hrest.length_le]
      cases i with
      | zero =>
        obtain rfl : first = cell := by simpa using hcell
        refine ⟨[], _, _, placed_zero (by omega) (fun _ => by omega) fun hcolumns => ?_⟩
        exact absurd (by simpa using hcolumns.symm) hrow
      | succ i =>
        obtain ⟨before, gap, after, hplaced⟩ := ih hrest i cell hcell
        exact ⟨_, gap, after, hplaced.after_cell hfirst⟩

end Row

/-- The rows that are printed. -/
def printed (headers : List Bytes) (rows : List (List Bytes)) : List (List Bytes) :=
  if headers = [] then rows else headers :: rows

theorem print_eq (headers : List Bytes) (rows : List (List Bytes)) :
    print headers rows = (printed headers rows).flatMap (printRow (widths headers rows)) := by
  unfold print printed
  cases headers with
  | nil => rfl
  | cons header headers => rfl

theorem mem_of_mem_printed {headers row : List Bytes} {rows : List (List Bytes)}
    (h : row ∈ printed headers rows) : row ∈ headers :: rows := by
  unfold printed at h
  split_ifs at h
  · exact List.mem_cons_of_mem _ h
  · exact h

theorem fits_widths {headers row : List Bytes} {rows : List (List Bytes)}
    (hcells : ∀ row ∈ headers :: rows, ∀ cell ∈ row, cell.length ≤ maxWidth)
    (hrow : row ∈ headers :: rows) : Fits (widths headers rows) row := by
  have hwidths := isWidths_widths headers rows
  intro i cell hcell
  obtain ⟨hi, rfl⟩ := List.getElem?_eq_some_iff.mp hcell
  obtain ⟨w, hw⟩ : ∃ w, (widths headers rows)[i]? = some w :=
    ⟨_, List.getElem?_eq_getElem (hi.trans_le (hwidths.length_le hrow))⟩
  obtain ⟨⟨row', hrow', cell', hcell', hlength⟩, hlargest⟩ := hwidths.isGreatest hw
  refine ⟨_, hw, hlargest ⟨row, hrow, _, hcell, rfl⟩, ?_⟩
  rw [← hlength]
  exact hcells row' hrow' cell' (List.mem_of_getElem? hcell')

/-- A table whose cells are not longer than columns can be wide is printed row by row, each without
the spaces at its end. There is a width for every cell: the widths are the largest byte lengths in
their columns. Before the spaces at the end are cut, every cell of a row stands in its column. -/
theorem print_aligned {headers : List Bytes} {rows : List (List Bytes)}
    (hcells : ∀ row ∈ headers :: rows, ∀ cell ∈ row, cell.length ≤ 1000000) :
    ∃ ws, ws = widths headers rows ∧
      (∀ row ∈ headers :: rows, row.length ≤ ws.length) ∧
      (∀ k w, ws[k]? = some w → IsGreatest (columnLengths (headers :: rows) k) w) ∧
      print headers rows = (printed headers rows).flatMap (printRow ws) ∧
      ∀ row ∈ printed headers rows,
        Aligned ws row (fullRow ws row) ∧
        ∃ kept spaces, fullRow ws row = kept ++ List.replicate spaces (byte ' ') ∧
          byte ' ' ∉ kept.getLast? ∧ printRow ws row = kept ++ utf8 "\n" := by
  have hwidths := isWidths_widths headers rows
  refine ⟨_, rfl, fun row => hwidths.length_le, fun k w => hwidths.isGreatest,
    print_eq headers rows, fun row hrow =>
    ⟨aligned_fullRow (fits_widths hcells (mem_of_mem_printed hrow)), ?_⟩⟩
  obtain ⟨spaces, hcut⟩ := Bytes.trimEnd_append (byte ' ') (fullRow (widths headers rows) row)
  exact ⟨_, spaces, hcut, Bytes.not_mem_getLast?_trimEnd _ _, rfl⟩

/-- Headers for a part of the columns. -/
def raggedHeaders : List Bytes := ["NAME", "QTY"]

/-- Rows of different lengths, with a character of two bytes, and with a byte that begins a
character at the end of a cell. -/
def raggedRows : List (List Bytes) := [["caf\u00e9", "1", "x"], [[0xC3], "2"], []]

theorem raggedTable_aligned :
    (∀ row ∈ raggedHeaders :: raggedRows, ∀ cell ∈ row, cell.length ≤ 1000000) ∧
      widths raggedHeaders raggedRows = [5, 3, 1] ∧
      ∀ row ∈ printed raggedHeaders raggedRows, Aligned [5, 3, 1] row (fullRow [5, 3, 1] row) := by
  have hcells : ∀ row ∈ raggedHeaders :: raggedRows, ∀ cell ∈ row, cell.length ≤ 1000000 := by
    decide
  have hwidths : widths raggedHeaders raggedRows = [5, 3, 1] := by decide
  obtain ⟨ws, hws, -, -, -, hrows⟩ := print_aligned hcells
  rw [hwidths] at hws
  exact ⟨hcells, hwidths, fun row hrow => hws ▸ (hrows row hrow).1⟩

example : print raggedHeaders raggedRows =
    text ["NAME   QTY\n", "caf\u00e9   1    x\n", [0xC3], "      2\n", "\n"] := by decide +kernel

end DocPull.Table
