import DocPull.Toml.Statement

/-!
# TOML documents

Statements are carried out one after the other on a growing tree of tables. A table comes into
being implicitly, as a step on the way to another key, or explicitly by its header; an implicit
table may be made explicit once. Any other key may be set only once. The document keeps all keys in
the order in which they were written.
-/
namespace DocPull.Toml

inductive Value where
  | string (s : Bytes)
  | other
  | array (items : List Value)
  /-- Tables that were opened one after the other under one header. -/
  | tables (items : List (List (Bytes × Value)))
  | table (members : List (Bytes × Value))

abbrev Table := List (Bytes × Value)

/-- A table with a member set, in its place when it was there before. -/
def Table.set (name : Bytes) (value : Value) : Table → Table
  | [] => [(name, value)]
  | (n, v) :: rest => if n = name then (n, value) :: rest else (n, v) :: Table.set name value rest

/-- A list with its last item changed. -/
def changeLast {α : Type} (f : α → Option α) : List α → Option (List α)
  | [] => none
  | [a] => (f a).map ([·])
  | a :: b :: rest => (changeLast f (b :: rest)).map (a :: ·)

/-- Changes the table at the end of a path. Under a header that was opened several times the last
table is meant. -/
def changeAt (f : Table → Option Table) : (path : Key) → Table → Option Table
  | [], t => f t
  | name :: path, t => do
    match ← t.lookup name with
    | .table members => do
      let changed ← changeAt f path members
      pure (Table.set name (.table changed) t)
    | .tables items => do
      let changed ← changeLast (changeAt f path) items
      pure (Table.set name (.tables changed) t)
    | _ => none

/-- A document under construction. -/
structure Builder where
  root : Table
  /-- The keys written so far, the last one first. -/
  keys : List Key
  /-- The tables that came into being only as a step on the way to another key. -/
  implicits : List Key
  /-- The keys whose value is, or is about to be, an array. -/
  arrays : List Key
  /-- The table that assignments go to. -/
  context : Key

namespace Builder

def empty : Builder := ⟨[], [], [], [], []⟩

def note (b : Builder) (key : Key) : Builder := { b with keys := key :: b.keys }

def markImplicit (b : Builder) (key : Key) : Builder := { b with implicits := key :: b.implicits }

def markExplicit (b : Builder) (key : Key) : Builder :=
  { b with implicits := b.implicits.filter (· != key) }

/-- Records whether a key of the context holds an array. The empty name stands for the context
itself. -/
def setKind (b : Builder) (name : Bytes) (isArray : Bool) : Builder :=
  let path := if name.isEmpty then b.context else b.context ++ [name]
  let path := if path.isEmpty then [[]] else path
  let others := b.arrays.filter (· != path)
  { b with arrays := if isArray then path :: others else others }

/-- Sets a key of the context. A key that is there already must be implicit. If it holds tables
that came into being as the items of an array, the array takes their place; otherwise it is a table
that is kept and becomes explicit. -/
def setValue (b : Builder) (name : Bytes) (value : Value) : Option Builder :=
  let path := b.context ++ [name]
  let put (t : Table) : Option Table :=
    match t.lookup name with
    | none => some (Table.set name value t)
    | some _ =>
      -- Only a table that came into being on the way to another one may be named again.
      if !b.implicits.contains path then none
      else if b.arrays.contains path then some (Table.set name value t)
      else some t
  let existed := (changeAt (fun t => if (t.lookup name).isSome then some t else none)
    b.context b.root).isSome
  (changeAt put b.context b.root).map fun root =>
    let b := { b with root := root }
    if existed then b.markExplicit path else b

/-- Opens every table on the way to a key, creating those that are missing. The steps taken so
far are held in order. -/
def openParents (b : Builder) : (taken : Key) → Key → Option Builder
  | _, [] => some b
  | taken, name :: rest =>
    let here := taken ++ [name]
    match changeAt (fun t => if (t.lookup name).isSome then some t else none) taken b.root with
    | some _ =>
      match changeAt some here b.root with
      | some _ => b.openParents here rest
      | none => none
    | none => do
      let root ← changeAt (fun t => some (Table.set name (.table []) t)) taken b.root
      ({ b with root := root }.markImplicit here).openParents here rest

/-- Makes a table the context, creating it when it is missing. -/
def openTable (b : Builder) (key : Key) : Option Builder := do
  let parents := key.dropLast
  let name := key.getLastD []
  let b ← b.openParents [] parents
  let b ← { b with context := parents }.setValue name (.table [])
  pure { b with context := key }

/-- Makes a fresh table under a repeated header the context. -/
def openTableArray (b : Builder) (key : Key) : Option Builder := do
  let parents := key.dropLast
  let name := key.getLastD []
  let b ← b.openParents [] parents
  let add (t : Table) : Option Table :=
    match t.lookup name with
    | none => some (Table.set name (.tables [[]]) t)
    | some (.tables items) => some (Table.set name (.tables (items ++ [[]])) t)
    | some _ => none
  let root ← changeAt add parents b.root
  pure { b with root := root, context := key }

/-- Opens the tables that the parts of a dotted key name before its last part. -/
def openSteps (b : Builder) : Key → Option Builder
  | [] => some b
  | step :: rest => do
    let here := b.context ++ [step]
    let b ← (b.markImplicit here).openTable here
    b.openSteps rest

/-- Puts a value at a dotted key inside the members of an inline table. -/
def putAt (value : Value) : Key → Table → Option Table
  | [], _ => none
  | [name], t => some (Table.set name value t)
  | name :: path, t =>
    match (t.lookup name).getD (.table []) with
    | .table members => (putAt value path members).map fun m => Table.set name (.table m) t
    | _ => none

mutual

/-- The value that a literal has as the value of a key, and the document with all keys that the
literal holds. -/
def evaluate (b : Builder) (name : Bytes) (inArray : Bool) : Literal → Option (Value × Builder)
  | .string s => some (.string s, b)
  | .other => some (.other, b)
  | .array items => do
    let (values, b) ← evaluateItems (b.setKind name true) name items
    pure (.array values, b)
  | .inlineTable members => do
    let outer := b.context
    let here := outer ++ [name]
    -- The members are added through the context, as under a header.
    let b := b.markImplicit here
    let b ← if inArray then b.openTableArray here else b.openTable here
    let (t, b) ← evaluateMembers b here [] members
    pure (.table t, { b with context := outer })

/-- The values of the items of an array. -/
def evaluateItems (b : Builder) (name : Bytes) : List Literal → Option (List Value × Builder)
  | [] => some ([], b)
  | item :: items => do
    let (value, b) ← evaluate b name true item
    let (values, b) ← evaluateItems b name items
    pure (value :: values, b)

/-- The members of an inline table, added one by one to the members before them. -/
def evaluateMembers (b : Builder) (here : Key) (t : Table) :
    List (Key × Literal) → Option (Table × Builder)
  | [] => some (t, b)
  | (key, literal) :: members => do
    let name := key.getLastD []
    let b ← { b with context := here }.openSteps key.dropLast
    let b := b.note (b.context ++ [name])
    let (value, b) ← evaluate b name false literal
    let b ← b.setValue name value
    let b := b.setKind name (match value with | .array _ => true | _ => false)
    let t ← putAt value key t
    evaluateMembers { b with context := here } here t members

end

/-- Carries out one statement. -/
def run (b : Builder) : Statement → Option Builder
  | .table key => do
    let b ← b.openTable key
    pure ((b.setKind [] false).note key)
  | .tableArray key => do
    let b ← b.openTableArray key
    pure ((b.setKind [] false).note key)
  | .assign key literal => do
    let outer := b.context
    let name := key.getLastD []
    let b ← b.openSteps key.dropLast
    let b := b.note (b.context ++ [name])
    let (value, b) ← evaluate b name false literal
    let b ← b.setValue name value
    let b := b.setKind name (match value with | .array _ => true | _ => false)
    pure { b with context := outer }

end Builder

/-- A document: its tables, and all its keys in the order in which they were written. -/
structure Document where
  root : Table
  keys : List Key

def parse? (s : Bytes) : Option Document := do
  let statements ← read? s
  let b ← statements.foldlM Builder.run Builder.empty
  pure ⟨b.root, b.keys.reverse⟩

end DocPull.Toml
