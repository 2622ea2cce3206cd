import DocPull.Cli.Run
import Std.Time.DateTime

/-!
# The program

The outer layer of the program. It puts the files that a run may use into a tree, runs, prints what
the run printed, and brings the saved credential on disk up to date. There is no network in it:
requests find nobody to answer them, and no login can be listened for.
-/
namespace DocPull.Main

open Files

/-- The variables that a run looks at. -/
def watched : List String :=
  ["HOME", "XDG_CONFIG_HOME", "XDG_DATA_HOME", "GRABDOC_CONFIG", "GRABDOC_CLIENT_ID",
    "GRABDOC_CLIENT_SECRET", "GRABDOC_TOKEN_FILE"]

def environment : IO Config.Environment :=
  watched.filterMapM fun name => do
    return (← IO.getEnv name).map fun value => (utf8 name, utf8 value)

/-- A path as the system takes it. -/
def pathText (path : Bytes) : String := (String.fromUTF8? ⟨path.toArray⟩).getD ""

/-- What stands on disk under a path. What is there and cannot be read counts as a directory. -/
def entryAt (path : Bytes) : IO (Option Entry) := do
  try
    let content ← IO.FS.readBinFile (pathText path)
    return some (.file Auth.TokenFile.fileMode content.data.toList)
  catch
    | .noFileOrDirectory .. => return none
    | _ => return some (.dir Download.dirMode)

/-- Puts what stands on disk under a path into a tree. -/
def mount (t : Tree) (path : Bytes) : IO Tree := do
  match ← entryAt path with
  | none => return t
  | some e =>
    let dir := Path.dir path
    let t := (makeDirs Download.dirMode (Path.components dir).length t dir).final t
    match t.locate path with
    | .ok l => return t.put l e
    | .error _ => return t

/-- Brings a private file on disk up to date. -/
def unmount (before after : Tree) (path : Bytes) : IO Unit := do
  match (before.read path).toOption, (after.read path).toOption with
  | old, some new =>
    if old = some new then return
    IO.FS.createDirAll (pathText (Path.dir path))
    let temporary := pathText (path ++ utf8 ".tmp")
    IO.FS.writeBinFile temporary ⟨new.toArray⟩
    IO.setAccessRights temporary ⟨⟨true, true, false⟩, ⟨false, false, false⟩, ⟨false, false, false⟩⟩
    IO.FS.rename temporary (pathText path)
  | some _, none => IO.FS.removeFile (pathText path)
  | none, none => return

def entropy : IO Entropy := do
  let digits := (← IO.getRandomBytes 10).data.toList.map fun b => byte '0' + b % 10
  let state := (← IO.getRandomBytes 16).data.toList
  let verifier := (← IO.getRandomBytes 32).data.toList
  return {
    digits := fun n => digits ++ Bytes.decimal n
    state := state.flatMap fun b => Bytes.hex 2 b.toNat
    verifier := Base64.encodeUrl verifier
    port := 0 }

def presentTime : IO Instant := do
  let t ← Std.Time.Timestamp.now
  return ⟨t.toSecondsSinceUnixEpoch.val, 0, 0⟩

/-- Prints an item beside the results; log lines start with the time. -/
def printItem (now : Instant) (item : ConsoleItem) : IO Unit := do
  let line := match item with
    | .log e => text ["time=", now.toMillis, " ", e.line]
    | other => Cli.shown other
  (← IO.getStderr).write ⟨line.toArray⟩

end DocPull.Main

open DocPull in
def main (args : List String) : IO UInt32 := do
  let args := args.map utf8
  let surroundings : Cli.Surroundings :=
    ⟨← DocPull.Main.environment, ← (← IO.getStderr).isTty⟩
  let now ← DocPull.Main.presentTime
  let configured ← DocPull.Main.mount .empty (Cli.configFile surroundings args)
  let private_ := Cli.credentialFiles surroundings args configured
  let tree ← private_.foldlM DocPull.Main.mount configured
  let (result, host) := Cli.run surroundings args
    { tree := tree
      wire := .ofAnswers [] false
      listener := .cannotBind "no network"
      now := now
      entropy := ← DocPull.Main.entropy }
  (← IO.getStdout).write ⟨host.output.toArray⟩
  host.console.reverse.forM (DocPull.Main.printItem now)
  private_.forM (DocPull.Main.unmount tree host.tree)
  match result with
  | .ok _ => return 0
  | .error e =>
    (← IO.getStderr).write ⟨(text ["Error: ", Failure.message e, "\n"]).toArray⟩
    return 1
