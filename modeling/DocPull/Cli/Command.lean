import DocPull.Cli.Flag
import DocPull.Config.Locations
import DocPull.EditDistance
import DocPull.Text.Fold

/-!
# Commands

The commands of the program, what each is called and takes, and how the command is found that
arguments are for. A name that no command has is answered with the names that come close.
-/
namespace DocPull.Cli

/-- The shells that completion is spoken of for. -/
inductive Shell where
  | bash
  | fish
  | powershell
  | zsh
  deriving DecidableEq, Repr

def Shell.name : Shell → String
  | bash => "bash"
  | fish => "fish"
  | powershell => "powershell"
  | zsh => "zsh"

/-- The commands. The root stands for the program itself. The command library adds those for
completion; they are here for their names, their help and what close names suggest. The scripts that
they print are the library's and are left out, as is the hidden command that these scripts call. -/
inductive Command where
  | root
  | completion
  | shell (s : Shell)
  | exporting
  | fetch
  | grab
  | help
  | login
  | logout
  | ls
  | whoami
  deriving DecidableEq, Repr

inductive OperandRule where
  | any
  | none
  | between (least most : Nat)
  | atMost (most : Nat)
  deriving DecidableEq, Repr

/-- What a command is called and takes. -/
structure Details where
  name : String
  /-- The operands, as the usage line shows them. -/
  operands : String := ""
  /-- One line about the command. -/
  short : String
  /-- More lines about the command. -/
  long : String := ""
  /-- The flags of the command alone. -/
  flags : List Flag := []
  rule : OperandRule := .none
  /-- Whether the command does anything but show help. -/
  runs : Bool := true
  deriving DecidableEq, Repr

/-- How many files are listed when nothing is said. -/
def defaultPageSize : Int := 10

namespace Command

/-- What the commands are called and take. The commands for completion do nothing but show help
here: asked for a script, the program would print one. -/
def details : Command → Details
  | root =>
    { name := Config.appName
      short := "Export Google Drive documents from the command line"
      long :=
        "grabdoc signs in to Google Drive with OAuth2, lists files, and exports\n" ++
        "documents to local files. It can also fetch published documents as CSV."
      rule := .any
      runs := false }
  | completion =>
    { name := "completion"
      short := "Generate the autocompletion script for the specified shell"
      long :=
        "Generate the autocompletion script for grabdoc for the specified shell.\n" ++
        "See each sub-command's help for details on how to use the generated script."
      runs := false }
  | shell s =>
    { name := s.name
      short := "Generate the autocompletion script for " ++ s.name
      runs := false }
  | exporting =>
    { name := "export"
      operands := " <file-id> [dest]"
      short := "Export a Google document to a local file"
      long :=
        "Exports the document in the configured MIME type, downloading it in\n" ++
        "chunks with progress. Without dest the file is named after the document.\n" ++
        "The destination is written only once every chunk has arrived."
      flags := [⟨"mime-type", .text, "export MIME type (default from config)"⟩]
      rule := .between 1 2 }
  | fetch =>
    { name := "fetch"
      operands := " [url]"
      short := "Download a published document as CSV without signing in"
      long :=
        "Fetches a publicly published document anonymously and prints the body.\n" ++
        "The URL comes from the argument, --key, [fetch] url, or [fetch] key, in\n" ++
        "that order. Any status other than 200 is an error."
      flags :=
        [⟨"key", .text, "published document key"⟩,
          ⟨"table", .switch none, "render the CSV as an aligned table"⟩]
      rule := .atMost 1 }
  | grab =>
    { name := "grab"
      short := "Sign in, list files, and export the configured document"
      long :=
        "Runs the whole workflow: obtain credentials, list up to 10 files, and\n" ++
        "export [export] file_id as [export] mime_type to [export] output." }
  | help =>
    { name := "help"
      operands := " [command]"
      short := "Help about any command"
      long :=
        "Help provides help for any command in the application.\n" ++
        "Simply type grabdoc help [path to command] for full details."
      rule := .any }
  | login =>
    { name := "login"
      short := "Authorize grabdoc with Google Drive"
      long :=
        "Loads the saved credential, refreshes it if expired, or opens a browser\n" ++
        "for Google's consent page when none is usable. The result is saved to the\n" ++
        "token file." }
  | logout => { name := "logout", short := "Remove the saved token file" }
  | ls =>
    { name := "ls"
      short := "List files in Google Drive"
      flags := [⟨"page-size", .integer defaultPageSize, "maximum number of files to list"⟩] }
  | whoami => { name := "whoami", short := "Display the Google account grabdoc is signed in as" }

def name (c : Command) : String := c.details.name

/-- The commands below a command, in alphabetical order. -/
def children : Command → List Command
  | root => [completion, exporting, fetch, grab, help, login, logout, ls, whoami]
  | completion => [shell .bash, shell .fish, shell .powershell, shell .zsh]
  | _ => []

def parent? : Command → Option Command
  | root => none
  | shell _ => some completion
  | _ => some root

/-- The names from the program down to a command. -/
def path : Command → String
  | root => root.name
  | shell s => root.name ++ " " ++ completion.name ++ " " ++ s.name
  | c => root.name ++ " " ++ c.name

end Command

def globalFlags : List Flag :=
  [⟨"config", .text, "config file path"⟩,
    ⟨"json", .switch none, "output in JSON format"⟩,
    ⟨"quiet", .switch (some 'q'), "suppress informational output"⟩,
    ⟨"verbose", .switch (some 'v'), "enable debug logging"⟩]

def helpFlag (c : Command) : Flag := ⟨"help", .switch (some 'h'), "help for " ++ c.name⟩

def versionFlag : Flag := ⟨"version", .switch none, "version for " ++ Command.root.name⟩

namespace Command

/-- The flags by which a command is found. Flags for help and version are not among them. -/
def knownFlags (c : Command) : List Flag := c.details.flags ++ globalFlags

def flags (c : Command) : List Flag :=
  c.knownFlags ++ helpFlag c :: if c = root then [versionFlag] else []

/-- Goes down from a command as long as the first operand names a command below. Every step uses
an argument up. -/
def descend : (fuel : Nat) → Command → List Bytes → Command × List Bytes
  | 0, c, args => (c, args)
  | fuel + 1, c, args =>
    match operands c.knownFlags args with
    | [] => (c, args)
    | name :: _ =>
      match c.children.find? fun child => utf8 child.name == name with
      | some child => descend fuel child (dropOperand c.knownFlags name args)
      | none => (c, args)

/-- The largest number of edits between a mistyped name and a suggested one. -/
def suggestionDistance : Nat := 2

/-- Whether a typed text comes close to a command's name, in any case: few edits lead to the name,
or the name begins with it. -/
def comesClose (typed : Bytes) (c : Command) : Bool :=
  let typed := Fold.lower typed
  let name := utf8 c.name
  EditDistance.distance typed name ≤ suggestionDistance || Bytes.startsWith name typed

/-- The commands that may be suggested, in the order in which they are suggested. -/
def suggestible : List Command :=
  [login, logout, whoami, ls, exporting, grab, fetch, completion]

def suggestions (typed : Bytes) : List Command := suggestible.filter (comesClose typed)

end Command

/-- Why a command line is refused. -/
inductive UsageError where
  | unknownCommand (typed : Bytes)
  | flag (e : FlagError)
  /-- An operand for a command that takes none. -/
  | unexpected (operand : Bytes) (c : Command)
  | notBetween (least most given : Nat)
  | tooMany (most given : Nat)
  deriving DecidableEq, Repr

/-- The suggestions as they stand below an error. -/
def suggestionText (typed : Bytes) : Bytes :=
  match Command.suggestions typed with
  | [] => []
  | cs => text ["\n\nDid you mean this?\n", cs.flatMap fun c => text ["\t", c.name, "\n"]]

def UsageError.message : UsageError → Bytes
  | unknownCommand typed =>
    text ["unknown command ", Quoted.quote typed, " for ", Quoted.quote Command.root.path,
      suggestionText typed]
  | flag e => e.message
  | unexpected operand c =>
    text ["unknown command ", Quoted.quote operand, " for ", Quoted.quote c.path]
  | notBetween least most given =>
    text ["accepts between ", Bytes.decimal least, " and ", Bytes.decimal most,
      " arg(s), received ", Bytes.decimal given]
  | tooMany most given =>
    text ["accepts at most ", Bytes.decimal most, " arg(s), received ", Bytes.decimal given]

namespace Command

/-- The command that arguments are for, and the arguments that are left for it. -/
def find (args : List Bytes) : Except UsageError (Command × List Bytes) :=
  let (c, rest) := descend args.length root args
  match c, operands root.knownFlags rest with
  | root, typed :: _ => .error (.unknownCommand typed)
  | _, _ => .ok (c, rest)

def check (c : Command) (given : List Bytes) : Except UsageError Unit :=
  match c.details.rule, given with
  | .none, operand :: _ => .error (.unexpected operand c)
  | .between least most, _ =>
    if given.length < least ∨ most < given.length then
      .error (.notBetween least most given.length)
    else .ok ()
  | .atMost most, _ =>
    if most < given.length then .error (.tooMany most given.length) else .ok ()
  | _, _ => .ok ()

end Command

end DocPull.Cli
