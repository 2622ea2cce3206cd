import DocPull.Cli.Command

/-!
# Help

What a command does, how it is called, the commands below it, and its flags. The descriptions of a
block of flags start in one column.
-/
namespace DocPull.Cli

/-- A flag as the left column shows it. -/
def Flag.column (f : Flag) : Bytes :=
  let start : Bytes := match f.letter? with
    | some c => text ["  -", [byte c], ", --", f.name]
    | none => text ["      --", f.name]
  match f.kind with
  | .switch _ => start
  | .text => text [start, " string"]
  | .integer _ => text [start, " int"]

/-- A flag as the right column shows it. -/
def Flag.description (f : Flag) : Bytes :=
  match f.kind with
  | .integer n => text [f.usage, " (default ", Bytes.signed n, ")"]
  | _ => f.usage

/-- A block of flags, in the order of their names. -/
def flagBlock (flags : List Flag) : Bytes :=
  let sorted := flags.mergeSort fun a b => a.name ≤ b.name
  let width := (sorted.map fun f => f.column.length).foldl max 0
  sorted.flatMap fun f =>
    text ["\n", f.column, List.replicate (width - f.column.length) (byte ' '), "   ",
      f.description]

def nameWidth : Nat := 11

/-- The commands below a command, one on each line. -/
def commandBlock (cs : List Command) : Bytes :=
  cs.flatMap fun c =>
    let name := utf8 c.name
    text ["\n  ", name, List.replicate (nameWidth - name.length) (byte ' '), " ",
      c.details.short]

/-- How a command is used, given the flags to show as its own. -/
def usage (c : Command) (own : List Flag) : Bytes :=
  let below := c.children
  text ["Usage:",
    if c.details.runs then text ["\n  ", c.path, c.details.operands, " [flags]"] else [],
    if below.isEmpty then [] else text ["\n  ", c.path, " [command]"],
    if below.isEmpty then [] else text ["\n\nAvailable Commands:", commandBlock below],
    if own.isEmpty then [] else text ["\n\nFlags:", flagBlock own],
    if c.parent?.isNone then [] else text ["\n\nGlobal Flags:", flagBlock globalFlags],
    if below.isEmpty then []
    else text ["\n\nUse \"", c.path, " [command] --help\" for more information about a command."],
    "\n"]

/-- The flags that help shows as a command's own. For the root these are all. -/
def ownFlags (c : Command) : List Flag :=
  if c = .root then c.flags else helpFlag c :: c.details.flags

def help (c : Command) : Bytes :=
  let about := if c.details.long = "" then c.details.short else c.details.long
  text [about, "\n\n", if c.details.runs || !c.children.isEmpty then usage c (ownFlags c) else []]

/-- How the program is used, shown for a question that has no answer. -/
def rootUsage : Bytes := usage .root globalFlags

/-- A text between backquotes, or between double quotes when it cannot stand between
backquotes. -/
def topic (s : Bytes) : Bytes :=
  let plain : TextUnit → Bool
    | .stray _ => false
    | .char c =>
      c != Char.ofNat 0x60 && c != '\ufeff' && (c == '\t' || (0x20 ≤ c.toNat && c.toNat != 0x7F))
  if (TextUnit.read s).all plain then text ["\x60", s, "\x60"] else Quoted.quote s

/-- The answer to a question about a command that there is not. -/
def unknownTopic (asked : List Bytes) : Bytes :=
  text ["Unknown help topic [", Bytes.join " " (asked.map topic), "]\n", rootUsage]

end DocPull.Cli
