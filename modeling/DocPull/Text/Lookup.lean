/-!
# Ascending tables

Properties of characters are kept in tables whose entries begin with a number and ascend by it. An
entry is found by halving the table. An entry of three numbers is written as one, with five
hexadecimal digits for each.
-/
namespace DocPull.Lookup

variable {α : Type}

/-- The three numbers of an entry that is written as one. -/
def unpack (n : Nat) : Nat × Nat × Nat :=
  (n / 0x10000000000, n / 0x100000 % 0x100000, n % 0x100000)

/-- An entry and the rest of its list put among the entries of another list, in ascending order. -/
def mergeFrom (e : Nat × α) (rest : List (Nat × α) → List (Nat × α)) :
    List (Nat × α) → List (Nat × α)
  | [] => e :: rest []
  | f :: fs => if e.1 ≤ f.1 then e :: rest (f :: fs) else f :: mergeFrom e rest fs

/-- Two ascending lists as one. -/
def merge : List (Nat × α) → List (Nat × α) → List (Nat × α)
  | [] => id
  | e :: es => mergeFrom e (merge es)

/-- Merges neighbours. -/
def mergePairs : List (List (Nat × α)) → List (List (Nat × α))
  | es :: fs :: more => merge es fs :: mergePairs more
  | few => few

/-- The entries in ascending order. Each round halves the number of ascending lists. -/
def ascending (entries : List (Nat × α)) : List (Nat × α) :=
  ((List.range (entries.length.log2 + 1)).foldl (fun lists _ => mergePairs lists)
    (entries.map ([·]))).flatten

/-- The number that the entry at a place begins with. -/
def key (table : Array (Nat × α)) (i : Nat) : Nat := (table[i]?.map (·.1)).getD 0

/-- The end of the entries that begin with a number up to the bound, known to lie between two
places. Each step halves what lies between them. -/
def endOf (table : Array (Nat × α)) (bound : Nat) : (steps : Nat) → (lo hi : Nat) → Nat
  | 0, lo, _ => lo
  | steps + 1, lo, hi =>
    if lo < hi then
      let mid := (lo + hi) / 2
      if key table mid ≤ bound then endOf table bound steps (mid + 1) hi
      else endOf table bound steps lo mid
    else lo

/-- The last entry that begins with a number up to the bound. -/
def last? (table : Array (Nat × α)) (bound : Nat) : Option (Nat × α) :=
  match endOf table bound (table.size.log2 + 1) 0 table.size with
  | 0 => none
  | i + 1 => table[i]?

/-- What stands beside a number in a table. -/
def beside? (table : Array (Nat × α)) (n : Nat) : Option α :=
  (last? table n).bind fun (found, a) => if found = n then some a else none

/-- What stands beside the range that holds a number. A range is its first and its last number. -/
def within? (table : Array (Nat × Nat × α)) (n : Nat) : Option α :=
  (last? table n).bind fun (_, hi, a) => if n ≤ hi then some a else none

end DocPull.Lookup
