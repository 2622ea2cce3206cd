import DocPull.Config.Settings
import DocPull.Text.Fold
import DocPull.Toml.Document

/-!
# Settings in a document

A document sets exactly the settings whose keys it holds. Sections and settings are found under
their exact name, or else under one that differs in case. A value of the wrong kind makes the
document unreadable; keys that name no setting are collected.
-/
namespace DocPull.Config

open Toml

/-- The member of a list with a given name: exactly this name, or else one that differs in case. -/
def named? {α : Type} (name : α → String) (all : List α) (key : Bytes) : Option α :=
  match all.find? fun a => utf8 (name a) == key with
  | some a => some a
  | none => all.find? fun a => Fold.same key (name a)

def section? (key : Bytes) : Option Section := named? Section.name Section.all key

def setting? (s : Section) (key : Bytes) : Option Setting :=
  named? Setting.name s.settings key

/-- The texts of an array. -/
def texts? (items : List Value) : Option (List Bytes) :=
  items.mapM fun
    | .string s => some s
    | _ => none

/-- Sets one setting to a value of a document. -/
def applySetting (f : Setting) (v : Value) (c : Settings) : Option Settings :=
  match f, v with
  | .scopes, .array items => (texts? items).map c.setScopes
  | .scopes, _ => none
  | f, .string s => some (f.setText s c)
  | _, _ => none

def applySection (s : Section) (t : Table) (c : Settings) : Option Settings :=
  t.foldlM (fun c (key, v) =>
    match setting? s key with
    | some f => applySetting f v c
    | none => some c) c

def applyDocument (d : Document) (c : Settings) : Option Settings :=
  d.root.foldlM (fun c (key, v) =>
    match section? key with
    | none => some c
    | some s =>
      match v with
      | .table t => applySection s t c
      | _ => none) c

/-- Whether a key names a section or a setting of one. -/
def isKnown : Key → Bool
  | [s] => (section? s).isSome
  | [s, f] => ((section? s).bind fun s => setting? s f).isSome
  | _ => false

/-- The keys of a document that name nothing, in document order. -/
def unknownKeys (d : Document) : List Key := d.keys.filter fun k => !isKnown k

end DocPull.Config
