import DocPull.Bytes

/-!
# Edit distance

The least number of single-byte insertions, deletions and substitutions between two texts,
computed row by row, and the nearest of a list of candidates.
-/
namespace DocPull.EditDistance

/-- The rest of a row of the distance table, for one more byte of the first text: from the entry
to the left, the bytes of the second text, and the entries of the row above. -/
def extend (a : UInt8) : (left : Nat) → Bytes → (above : List Nat) → List Nat
  | left, b :: bs, diagonal :: up :: rest =>
    let entry := min (min (left + 1) (up + 1)) (diagonal + if a = b then 0 else 1)
    entry :: extend a entry bs (up :: rest)
  | _, _, _ => []

def nextRow (t : Bytes) (row : List Nat) (a : UInt8) : List Nat :=
  let left := row.headD 0 + 1
  left :: extend a left t row

/-- The row for the empty text: the distances to the beginnings of the second text. -/
def firstRow (t : Bytes) : List Nat := List.range (t.length + 1)

/-- The edit distance of two texts. -/
def distance (s t : Bytes) : Nat := (s.foldl (nextRow t) (firstRow t)).getLastD 0

/-- The largest distance at which a name is still worth suggesting. -/
def maxDistance : Nat := 3

/-- The first of the candidates that are nearest to a name, when they are near enough. -/
def closest? (name : Bytes) (candidates : List Bytes) : Option Bytes :=
  (candidates.foldl nearer (none, maxDistance + 1)).1
where
  /-- Keeps a candidate that is strictly nearer than the best so far. -/
  nearer : Option Bytes × Nat → Bytes → Option Bytes × Nat
    | (best, least), candidate =>
      let d := distance name candidate
      if d < least then (some candidate, d) else (best, least)

end DocPull.EditDistance
