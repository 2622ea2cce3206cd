import DocPull.Json.Basic
import DocPull.Number.Numeral
import DocPull.Text.Fold

/-!
# Reading records from JSON documents

A record is filled member by member, in order, so a later member of the same name overwrites an
earlier one, and nested records are merged. Names are compared without case. A null leaves a text
or a number as it was and clears a list or an optional record. A value of the wrong kind makes the
whole document unreadable.
-/
namespace DocPull.Json

/-- A text, given the value it had. -/
def toText (old : Bytes) : Json → Option Bytes
  | .null => some old
  | .string l => some (unquote l)
  | _ => none

/-- A signed 64-bit integer, given the value it had. -/
def toInteger (old : Int) : Json → Option Int
  | .null => some old
  | .number l => (Numeral.integer l).toOption
  | _ => none

/-- A Boolean, given the value it had. -/
def toBoolean (old : Bool) : Json → Option Bool
  | .null => some old
  | .bool b => some b
  | _ => none

/-- A list while its document is read. Lists of one name are read over one another: each item is
read over the item that stood in its place, also over one that a shorter list in between left
behind its end. -/
structure Slots (α : Type) where
  items : List α
  /-- The items behind the end of the list. -/
  spare : List α

def Slots.empty {α : Type} : Slots α := ⟨[], []⟩

/-- The items of an array read one by one over the items in their places. -/
def readItems {α : Type} (read : Option α → Json → Option α) :
    (old : List α) → List Json → Option (Slots α)
  | old, [] => some ⟨[], old⟩
  | old, j :: js => do
    let a ← read old.head? j
    let rest ← readItems read old.tail js
    pure ⟨a :: rest.items, rest.spare⟩

/-- A list, given the slots it is read over; a null means that there is none, and neither a null nor
an empty array leaves anything to read over. -/
def toList {α : Type} (read : Option α → Json → Option α) (old : Option (Slots α)) :
    Json → Option (Option (Slots α))
  | .null => some none
  | .array [] => some (some .empty)
  | .array items =>
    let slots := old.getD .empty
    (readItems read (slots.items ++ slots.spare) items).map some
  | _ => none

/-- A list of texts, given the slots it is read over. -/
def toTexts : (old : Option (Slots Bytes)) → Json → Option (Option (Slots Bytes)) :=
  toList fun old => toText (old.getD [])

/-- A record, filled by one reader for each name. A member without a reader is passed over. -/
def toRecord {α : Type} (fields : List (String × (α → Json → Option α))) (old : α) :
    Json → Option α
  | .null => some old
  -- A name that stands twice is read twice, the second time over the first.
  | .object members =>
    members.foldlM (fun a (name, value) =>
      match reader? name with
      | some read => read a value
      | none => some a) old
  | _ => none
where
  /-- The reader for a name: the one of exactly this name, or else one that differs in case. -/
  reader? (name : Bytes) : Option (α → Json → Option α) :=
    match fields.find? fun f => utf8 f.1 == name with
    | some f => some f.2
    | none => (fields.find? fun f => Fold.same name f.1).map (·.2)

/-- An optional record, given the one it had; a null clears it. -/
def toOptional {α : Type} (fresh : α) (read : α → Json → Option α) (old : Option α) :
    Json → Option (Option α)
  | .null => some none
  | j => (read (old.getD fresh) j).map some

/-- The last value of a name in an object. -/
def lookup? (name : Bytes) : Json → Option Json
  | .object members => (members.reverse.find? fun m => m.1 == name).map (·.2)
  | _ => none

end DocPull.Json
