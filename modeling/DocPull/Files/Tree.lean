import DocPull.Files.Path

/-!
# File trees

A tree is a finite map from locations to files and directories. Three directories are always there:
the working directory, where names start, the root, where names with a slash in front start, and the
place above the working directory, where two dots lead. Names are followed component by component:
every component before the last must be a directory that may be searched. Operations fail with the
reason a file system gives, and a failed operation changes nothing.
-/
namespace DocPull.Files

/-- A place in the tree: the names that lead to it from the working directory. Outside of it the
first name says where the others start; no entry can have such a name. -/
abbrev Location := List Bytes

def root : Location := [utf8 "/"]

/-- The place above the working directory. -/
def outside : Location := [utf8 ".."]

/-- Whether a directory is always there at a location. -/
def isAnchor (l : Location) : Bool := l == [] || l == root || l == outside

/-- Whether a location is below the working directory. -/
def isInside (l : Location) : Bool := l != [] && l.take 1 != root && l.take 1 != outside

/-- The directory above a location. Nothing is above the root, and all that is above the working
directory is one place. -/
def above (l : Location) : Location :=
  if l = [] then outside else if isAnchor l then l else l.dropLast

/-- What stands at a place. Modes are the nine permission bits. -/
inductive Entry where
  | file (mode : Nat) (content : Bytes)
  | dir (mode : Nat)
  deriving DecidableEq, Repr

structure Tree where
  entries : List (Location × Entry)
  deriving Repr

/-- Why a file system operation fails. -/
inductive Fault where
  | noEntry
  | notDirectory
  | isDirectory
  | alreadyThere
  | notEmpty
  | nameTooLong
  | invalidName
  | denied
  | busy
  | separatorInPattern
  deriving DecidableEq, Repr

def Fault.message : Fault → Bytes
  | noEntry => "no such file or directory"
  | notDirectory => "not a directory"
  | isDirectory => "is a directory"
  | alreadyThere => "file exists"
  | notEmpty => "directory not empty"
  | nameTooLong => "file name too long"
  | invalidName => "invalid argument"
  | denied => "permission denied"
  | busy => "device or resource busy"
  | separatorInPattern => "pattern contains path separator"

/-- A failed operation on one name. -/
structure PathError where
  action : String
  path : Bytes
  fault : Fault
  deriving DecidableEq, Repr

def PathError.message (e : PathError) : Bytes :=
  text [e.action, " ", e.path, ": ", e.fault.message]

/-- Permission bits. -/
def ownerRead : Nat := 0o400
def ownerWrite : Nat := 0o200
def ownerSearch : Nat := 0o100

def allows (mode bit : Nat) : Bool := mode / bit % 2 == 1

/-- The permission bits of a mode that a new directory gets: others never write to it. -/
def masked (mode : Nat) : Nat := mode % 0o1000 &&& 0o755

namespace Tree

def empty : Tree := ⟨[]⟩

def get? (t : Tree) (l : Location) : Option Entry :=
  if isAnchor l then some (.dir 0o755) else t.entries.lookup l

def put (t : Tree) (l : Location) (e : Entry) : Tree :=
  ⟨(l, e) :: t.entries.filter fun p => p.1 != l⟩

def erase (t : Tree) (l : Location) : Tree := ⟨t.entries.filter fun p => p.1 != l⟩

/-- The longest name of an entry, in bytes. -/
def maxName : Nat := 255

/-- The longest name that is followed at all, in bytes. -/
def maxPath : Nat := 4095

/-- The components of a name that are followed. A slash at the end asks for a directory. -/
def steps (path : Bytes) : List Bytes :=
  let named := (Path.components path).filter fun c => !c.isEmpty
  if Bytes.endsWith path "/" then named ++ [utf8 "."] else named

/-- Follows components from a location. Every component is looked up in a directory. -/
def walk (t : Tree) : Location → List Bytes → Except Fault Location
  | l, [] => .ok l
  | l, c :: rest =>
    match t.get? l with
    | none => .error .noEntry
    | some (.file _ _) => .error .notDirectory
    | some (.dir mode) =>
      if !allows mode ownerSearch then .error .denied
      else if c = utf8 "." then walk t l rest
      else if c = utf8 ".." then walk t (above l) rest
      else if maxName < c.length then .error .nameTooLong
      else walk t (l ++ [c]) rest

def start (path : Bytes) : Location := if path.head? = some (byte '/') then root else []

/-- The location that a name means. The last component need not exist. -/
def locate (t : Tree) (path : Bytes) : Except Fault Location :=
  if path.contains 0 then .error .invalidName
  else if path = [] then .error .noEntry
  else if maxPath < path.length then .error .nameTooLong
  else t.walk (start path) (steps path)

/-- What a name means. -/
def lookup (t : Tree) (path : Bytes) : Except Fault (Location × Entry) := do
  let l ← t.locate path
  match t.get? l with
  | some e => pure (l, e)
  | none => throw .noEntry

def isDir (t : Tree) (path : Bytes) : Bool :=
  match t.lookup path with
  | .ok (_, .dir _) => true
  | _ => false

/-- Whether nothing is there under a name. A name below a file is not missing. -/
def isMissing (t : Tree) (path : Bytes) : Bool :=
  match t.lookup path with
  | .error .noEntry => true
  | _ => false

/-- Whether the directory of a location takes new entries. -/
def mayChange (t : Tree) (l : Location) : Bool :=
  match t.get? l.dropLast with
  | some (.dir mode) => allows mode ownerWrite
  | _ => false

def read (t : Tree) (path : Bytes) : Except PathError Bytes :=
  match t.lookup path with
  | .error f => .error ⟨"open", path, f⟩
  | .ok (_, .dir mode) =>
    if allows mode ownerRead then .error ⟨"read", path, .isDirectory⟩
    else .error ⟨"open", path, .denied⟩
  | .ok (_, .file mode content) =>
    if allows mode ownerRead then .ok content else .error ⟨"open", path, .denied⟩

/-- The place for a new entry. -/
def vacancy (t : Tree) (path : Bytes) : Except Fault Location := do
  let l ← t.locate path
  match t.get? l with
  | some _ => throw .alreadyThere
  | none => if t.mayChange l then pure l else throw .denied

def makeDir (t : Tree) (path : Bytes) (mode : Nat) : Except PathError Tree :=
  match t.vacancy path with
  | .error f => .error ⟨"mkdir", path, f⟩
  | .ok l => .ok (t.put l (.dir (masked mode)))

/-- Removes a file or an empty directory. A directory cannot be removed by a name that ends in
dots. -/
def remove (t : Tree) (path : Bytes) : Except PathError Tree :=
  let last := Path.base path
  match t.lookup path with
  | .error f => .error ⟨"remove", path, f⟩
  | .ok (l, e) =>
    if last = utf8 ".." then .error ⟨"remove", path, .notEmpty⟩
    else if last = utf8 "." then .error ⟨"remove", path, .invalidName⟩
    else if isAnchor l then .error ⟨"remove", path, .busy⟩
    else if !t.mayChange l then .error ⟨"remove", path, .denied⟩
    else
      match e with
      | .file _ _ => .ok (t.erase l)
      | .dir _ =>
        if t.entries.any fun p => p.1.dropLast == l && !p.1.isEmpty then
          .error ⟨"remove", path, .notEmpty⟩
        else .ok (t.erase l)

end Tree

end DocPull.Files
