import DocPull.Export.Stream
import DocPull.Files.AtomicWrite

/-!
# Downloads

A download pulls every chunk of a document and writes the file only then, all at once. A failure
before that leaves the tree untouched.
-/
namespace DocPull

/-- States that hold a file tree. -/
class HasTree (σ : Type) where
  tree : σ → Files.Tree
  setTree : Files.Tree → σ → σ

instance : HasTree Files.Tree := ⟨id, fun t _ => t⟩

namespace Download

open Files

structure Result where
  path : Bytes
  size : Nat
  deriving DecidableEq, Repr

/-- Why a download failed. -/
inductive Error (ε : Type) where
  | stream (e : StreamError ε)
  | write (path : Bytes) (e : WriteError)
  deriving DecidableEq, Repr

/-- What the source of the chunks failed with. -/
def Error.cause? {ε : Type} : Error ε → Option ε
  | .stream e => e.cause?
  | .write _ _ => none

instance {ε : Type} [Failure ε] : Failure (Error ε) where
  message
    | .stream e => Failure.message e
    | .write path e => text ["export: writing ", path, ": ", e.message]
  isA
    | .stream e, k => Failure.isA e k
    | .write _ _, _ => false

def fileMode : Nat := 0o644

def dirMode : Nat := 0o755

/-- Pulls a document and writes it to a file. -/
def run {φ σ ε : Type} [HasTree σ] (q : Quotients φ) (src : ChunkSource σ ε)
    (note : Progress φ → σ → σ) (digits : Nat → Bytes) (path : Bytes) (chunkSize : Int) (w : σ) :
    Except (Error ε) Result × σ :=
  match Stream.pullAll q src note chunkSize w with
  | (.error e, _, w) => (.error (.stream e), w)
  | (.ok _, s, w) =>
    let t := HasTree.tree w
    let written := writeFile t path s.content fileMode dirMode digits
    let w := HasTree.setTree (written.final t) w
    match written.result with
    | .error e => (.error (.write path e), w)
    | .ok _ => (.ok ⟨path, s.content.length⟩, w)

end Download

end DocPull
