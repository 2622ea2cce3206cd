import DocPull.Files.Tree

/-!
# Writing a file all at once

New content goes to a fresh temporary file in the directory of the target, which then takes the
target's name. Whoever reads the target sees the old content or all of the new one. Every
intermediate tree is kept, so that what holds between two steps can be stated.
-/
namespace DocPull.Files

/-- The steps on a temporary file that a disk may refuse. -/
inductive FillStep where
  | restrict
  | write
  | sync
  | close
  deriving DecidableEq, Repr

/-- What is being done in a step. -/
def FillStep.doing : FillStep → String
  | restrict => "setting permissions"
  | write => "writing"
  | sync => "syncing"
  | close => "closing"

/-- The system's name for a step. -/
def FillStep.action : FillStep → String
  | restrict => "chmod"
  | write => "write"
  | sync => "sync"
  | close => "close"

structure Refusal where
  step : FillStep
  /-- How many bytes a refused write leaves behind. -/
  kept : Nat
  why : Bytes
  deriving DecidableEq, Repr

/-- Why a file could not be written. -/
inductive WriteError where
  | directory (dir : Bytes) (e : PathError)
  | temporary (e : PathError)
  | refused (name : Bytes) (r : Refusal)
  | rename (source target : Bytes) (fault : Fault)
  deriving DecidableEq, Repr

def WriteError.message : WriteError → Bytes
  | directory dir e => text ["atomicfile: creating directory ", dir, ": ", e.message]
  | temporary e => text ["atomicfile: creating temp file: ", e.message]
  | refused name r =>
    text ["atomicfile: ", r.step.doing, ": ", r.step.action, " ", name, ": ", r.why]
  | rename a b f => text ["atomicfile: renaming: rename ", a, " ", b, ": ", f.message]

/-- The end of a write and the trees after each of its steps, in order. -/
structure Written (ε α : Type) where
  trees : List Tree
  result : Except ε α

def Written.final {ε α : Type} (w : Written ε α) (start : Tree) : Tree := w.trees.getLastD start

/-- The directory above a cleaned name; the working directory and the root have none. -/
def parent? (dir : Bytes) : Option Bytes :=
  match Bytes.cutLast (byte '/') dir with
  | some (above, _) => if above = [] then none else some above
  | none => none

/-- Makes one directory, after those above it have been made. -/
def makeMissing (t : Tree) (dir : Bytes) (mode : Nat) : Written PathError Unit :=
  match t.makeDir dir mode with
  | .ok t' => ⟨[t'], .ok ()⟩
  | .error e => if t.isDir dir then ⟨[], .ok ()⟩ else ⟨[], .error e⟩

/-- Makes a directory with all directories above it. The number of components bounds how many
there are. -/
def makeDirs (mode : Nat) : (fuel : Nat) → Tree → Bytes → Written PathError Unit
  | 0, _, _ => ⟨[], .ok ()⟩
  | fuel + 1, t, dir =>
    match t.lookup dir with
    | .ok (_, .dir _) => ⟨[], .ok ()⟩
    | .ok (_, .file _ _) => ⟨[], .error ⟨"mkdir", dir, .notDirectory⟩⟩
    | .error _ =>
      match parent? dir with
      | none => makeMissing t dir mode
      | some above =>
        let first := makeDirs mode fuel t above
        match first.result with
        | .error e => ⟨first.trees, .error e⟩
        | .ok _ =>
          let last := makeMissing (first.final t) dir mode
          ⟨first.trees ++ last.trees, last.result⟩

/-- How many names are tried for a temporary file. -/
def maxAttempts : Nat := 10000

/-- The first free name of a temporary file, with its location. The names differ in their digits,
which are given for each attempt. -/
def freeName (t : Tree) (dir base : Bytes) (digits : Nat → Bytes) :
    (fuel attempt : Nat) → Except PathError (Bytes × Location)
  | 0, _ => .error ⟨"createtemp", Path.inside dir (text [".", base, "-*.tmp"]), .alreadyThere⟩
  | fuel + 1, attempt =>
    let name := Path.inside dir (text [".", base, "-", digits attempt, ".tmp"])
    match t.vacancy name with
    | .ok l => .ok (name, l)
    | .error .alreadyThere => freeName t dir base digits fuel (attempt + 1)
    | .error f => .error ⟨"open", name, f⟩

/-- The name of a temporary file beside a target, with its location. -/
def temporaryName (t : Tree) (path : Bytes) (digits : Nat → Bytes) :
    Except PathError (Bytes × Location) :=
  let base := Path.base path
  if base.contains (byte '/') then
    .error ⟨"createtemp", text [".", base, "-*.tmp"], .separatorInPattern⟩
  else freeName t (Path.dir path) base digits maxAttempts 0

/-- The tree after a file at a location has taken another name. A directory is never replaced. -/
def moveTo (t : Tree) (l : Location) (file : Entry) (path : Bytes) : Except Fault Tree := do
  if t.isDir path then throw .alreadyThere
  let target ← t.locate path
  unless t.mayChange target do throw .denied
  return (t.erase l).put target file

/-- Fills a fresh temporary file at a location, up to the step that the disk refuses. The file has
the final mode before anything is written to it. -/
def fill (refused : Option Refusal) (t : Tree) (l : Location) (mode : Nat) (content : Bytes) :
    Written Refusal Unit :=
  let created := t.put l (.file 0o600 [])
  let restricted := created.put l (.file mode [])
  let filled (data : Bytes) : Tree := restricted.put l (.file mode data)
  match refused with
  | none => ⟨[created, restricted, filled content], .ok ()⟩
  | some r =>
    match r.step with
    | .restrict => ⟨[created], .error r⟩
    -- A write that is refused leaves what the disk had taken by then.
    | .write => ⟨[created, restricted, filled (content.take r.kept)], .error r⟩
    | .sync | .close => ⟨[created, restricted, filled content], .error r⟩

/-- Writes a whole file on a disk that may refuse a step: makes the missing directories, fills a
fresh temporary file that has the final mode from the start, and gives it the target's name. When
that fails the temporary file is removed. -/
def writeFileOn (refused : Option Refusal) (t : Tree) (path content : Bytes) (mode dirMode : Nat)
    (digits : Nat → Bytes) : Written WriteError Unit :=
  let dir := Path.dir path
  let dirs := makeDirs dirMode (Path.components dir).length t dir
  let t := dirs.final t
  match dirs.result with
  | .error e => ⟨dirs.trees, .error (.directory dir e)⟩
  | .ok _ =>
    match temporaryName t path digits with
    | .error e => ⟨dirs.trees, .error (.temporary e)⟩
    | .ok (name, l) =>
      -- A mode is set by its nine permission bits.
      let mode := mode % 0o1000
      let filling := fill refused t l mode content
      let filled := filling.final t
      let given : Except WriteError Tree := match filling.result with
        | .error r => .error (.refused name r)
        | .ok _ => (moveTo filled l (.file mode content) path).mapError (.rename name path)
      match given with
      | .ok moved => ⟨dirs.trees ++ filling.trees ++ [moved], .ok ()⟩
      -- The temporary file goes; directories that were made for it stay.
      | .error e => ⟨dirs.trees ++ filling.trees ++ [filled.erase l], .error e⟩

/-- Writes a whole file on a disk that refuses nothing. -/
def writeFile (t : Tree) (path content : Bytes) (mode dirMode : Nat) (digits : Nat → Bytes) :
    Written WriteError Unit :=
  writeFileOn none t path content mode dirMode digits

end DocPull.Files
