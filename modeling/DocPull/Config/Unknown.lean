import DocPull.Config.Document
import DocPull.EditDistance
import DocPull.Text.Quoted

/-!
# Unknown keys

Each unknown key is reported with the nearest name that could have been meant. An unknown section
is reported once, whatever it holds.
-/
namespace DocPull.Config

inductive UnknownKey where
  /-- A key inside a section, with the nearest setting of that section. -/
  | inSection (sectionName key : Bytes) (nearest : Option Bytes)
  /-- A key at the top that belongs into a section. -/
  | misplaced (key : Bytes) (s : Section)
  /-- A key at the top, with the nearest section. -/
  | atTop (key : Bytes) (nearest : Option Bytes)
  deriving DecidableEq, Repr

def UnknownKey.message : UnknownKey → Bytes
  | inSection s key nearest =>
    let suggestion := match nearest with
      | some n => text [", did you mean ", Quoted.quote n, "?"]
      | none => []
    text ["unknown config key ", Quoted.quote key, " in [", s, "]", suggestion]
  | misplaced key s =>
    text ["unknown config key ", Quoted.quote key, ", did you mean to put it under [", s.name, "]?"]
  | atTop key nearest =>
    let suggestion := match nearest with
      | some n => text [", did you mean [", n, "]?"]
      | none => []
    text ["unknown config key ", Quoted.quote key, suggestion]

/-- The section of exactly this name. -/
def exactSection? (key : Bytes) : Option Section :=
  Section.all.find? fun s => utf8 s.name == key

/-- Puts a name in its place in an ordered list. -/
def insertName (n : Bytes) : List Bytes → List Bytes
  | [] => [n]
  | m :: ms => if n ≤ m then n :: m :: ms else m :: insertName n ms

/-- The names of the settings of a section, in alphabetical order. -/
def sortedNames (s : Section) : List Bytes :=
  s.settings.foldr (fun f names => insertName (utf8 f.name) names) []

/-- The report on a key at the top. -/
def reportTop (key : Bytes) : UnknownKey :=
  match Section.all.find? fun s => s.settings.any fun f => utf8 f.name == key with
  | some s => .misplaced key s
  | none => .atTop key (EditDistance.closest? key (Section.all.map fun s => utf8 s.name))

def reportKey (key : Toml.Key) : UnknownKey :=
  match key with
  | [] => reportTop []
  | [s] => reportTop s
  | s :: f :: rest =>
    -- The reader of settings takes a section in any case, and this one does not.
    match exactSection? s with
    | none => reportTop s
    | some sec =>
      .inSection s (Bytes.join "." (f :: rest)) (EditDistance.closest? f (sortedNames sec))

/-- The reports on unknown keys, given the names at the top that were reported already. A name
that is no section is reported once. -/
def reportKeys : (reported : List Bytes) → List Toml.Key → List UnknownKey
  | _, [] => []
  | reported, key :: keys =>
    let top := key.headD []
    if (exactSection? top).isSome then reportKey key :: reportKeys reported keys
    else if reported.contains top then reportKeys reported keys
    else reportKey key :: reportKeys (top :: reported) keys

end DocPull.Config
