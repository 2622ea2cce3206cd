import DocPull.Text.Unit

/-!
# Aligned tables

Columns are as wide as the byte length of their longest cell. A cell is filled up with spaces
by its number of characters, two spaces part neighbouring columns, and a row ends without
spaces. A column of more than a million bytes is not aligned: its cells are marked instead.
-/
namespace DocPull.Table

/-- The widths of two tables taken together, column by column. -/
def widen : List Nat → List Nat → List Nat
  | [], vs => vs
  | us, [] => us
  | u :: us, v :: vs => max u v :: widen us vs

def lengths (row : List Bytes) : List Nat := row.map List.length

def widths (headers : List Bytes) (rows : List (List Bytes)) : List Nat :=
  rows.foldl (fun ws row => widen ws (lengths row)) (lengths headers)

/-- The largest width that cells are filled up to. -/
def maxWidth : Nat := 1000000

/-- A cell filled up to a width, or marked as too wide to be. -/
def pad (width : Nat) (cell : Bytes) : Bytes :=
  if width ≤ maxWidth then cell ++ List.replicate (width - TextUnit.count cell) (byte ' ')
  else text ["%!(BADWIDTH)", cell]

/-- A row with every cell filled up, before its trailing spaces are cut. -/
def fullRow (widths : List Nat) (row : List Bytes) : Bytes :=
  Bytes.join "  " (List.zipWith pad widths row)

def printRow (widths : List Nat) (row : List Bytes) : Bytes :=
  Bytes.trimEnd (byte ' ') (fullRow widths row) ++ [10]

/-- The whole table; without headers there is no header row. -/
def print (headers : List Bytes) (rows : List (List Bytes)) : Bytes :=
  let ws := widths headers rows
  (if headers.isEmpty then [] else printRow ws headers) ++ rows.flatMap (printRow ws)

end DocPull.Table
