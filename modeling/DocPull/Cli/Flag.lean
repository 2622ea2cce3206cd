import DocPull.Number.Numeral

/-!
# Flags

A flag is a switch, a text or an integer. A switch stands alone or is given a Boolean word after an
equals sign, and it may have a letter for short; letters of several switches can be run together.
Every other flag takes what follows its equals sign, or else the next argument. Flags and operands
may be mixed; after two dashes only operands follow.
-/
namespace DocPull.Cli

inductive FlagKind where
  | switch (letter : Option Char)
  | text
  | integer (initial : Int)
  deriving DecidableEq, Repr

structure Flag where
  name : String
  kind : FlagKind
  usage : String
  deriving DecidableEq, Repr

namespace Flag

/-- The letter of a switch. -/
def letter? (f : Flag) : Option Char :=
  match f.kind with
  | .switch letter => letter
  | _ => none

/-- Whether a flag can stand alone. -/
def isSwitch (f : Flag) : Bool :=
  match f.kind with
  | .switch _ => true
  | _ => false

def isNamed (name : Bytes) (f : Flag) : Bool := utf8 f.name == name

def isLettered (letter : UInt8) (f : Flag) : Bool := f.letter?.any fun c => byte c == letter

/-- How a flag is spoken of. -/
def title (f : Flag) : Bytes :=
  match f.letter? with
  | some c => text ["-", [byte c], ", --", f.name]
  | none => text ["--", f.name]

end Flag

/-- Why arguments are refused. -/
inductive FlagError where
  | malformed (argument : Bytes)
  | unknown (name : Bytes)
  /-- A letter that no flag has, with the letters that follow it. -/
  | unknownLetter (letter : UInt8) (rest : Bytes)
  | needsValue (f : Flag)
  | badValue (f : Flag) (value : Bytes) (fault : Numeral.Fault)
  deriving DecidableEq, Repr

/-- A letter between single quotes. Of a letter outside ASCII only the first byte of its encoding
is shown. -/
def shownLetter (letter : UInt8) : Bytes :=
  let first := (String.utf8EncodeChar (Char.ofNat letter.toNat)).headD 0
  Quoted.quoteChar (Char.ofNat first.toNat)

def FlagError.message : FlagError → Bytes
  | malformed a => text ["bad flag syntax: ", a]
  | unknown name => text ["unknown flag: --", name]
  | unknownLetter l rest =>
    text ["unknown shorthand flag: ", shownLetter l, " in -", l :: rest]
  | needsValue f => text ["flag needs an argument: --", f.name]
  | badValue f value fault =>
    let reader := if f.isSwitch then "ParseBool" else "ParseInt"
    text ["invalid argument ", Quoted.quote value, " for ", Quoted.quote f.title, " flag: ",
      fault.message reader value]

inductive FlagValue where
  | switch (on : Bool)
  | text (s : Bytes)
  | integer (n : Int)
  deriving DecidableEq, Repr

def Flag.read (f : Flag) (value : Bytes) : Except FlagError FlagValue :=
  match f.kind with
  | .switch _ =>
    match Numeral.boolean? value with
    | some b => .ok (.switch b)
    | none => .error (.badValue f value .badSyntax)
  | .text => .ok (.text value)
  | .integer _ =>
    match Numeral.anyBase value with
    | .ok n => .ok (.integer n)
    | .error fault => .error (.badValue f value fault)

/-- The values that flags were given, the last one first. -/
abbrev FlagValues := List (String × FlagValue)

namespace FlagValues

def isOn (vs : FlagValues) (name : String) : Bool := vs.lookup name == some (.switch true)

/-- The text that a flag was given; empty without one. -/
def text (vs : FlagValues) (name : String) : Bytes :=
  match vs.lookup name with
  | some (.text s) => s
  | _ => []

def integer? (vs : FlagValues) (name : String) : Option Int :=
  match vs.lookup name with
  | some (.integer n) => some n
  | _ => none

end FlagValues

/-- What an argument is, as far as its form tells. -/
inductive Argument where
  | operand
  /-- Two dashes: only operands follow. -/
  | lastFlag
  | long (name : Bytes) (value : Option Bytes)
  | letters (s : Bytes)
  | malformed
  deriving DecidableEq, Repr

/-- The form of an argument. A single dash is an operand. -/
def Argument.of (a : Bytes) : Argument :=
  match a with
  | d :: e :: rest =>
    if d ≠ byte '-' then .operand
    else if e ≠ byte '-' then .letters (e :: rest)
    else
      match rest with
      | [] => .lastFlag
      | b :: _ =>
        if b = byte '-' ∨ b = byte '=' then .malformed
        else
          match Bytes.cut (byte '=') rest with
          | some (name, value) => .long name (some value)
          | none => .long rest none
  | _ => .operand

/-- The values that letters give to switches. A value after an equals sign is for the last letter.
Letters that go on with `test.` belong to test tools and say nothing. -/
def readLetters (flags : List Flag) : Bytes → Except FlagError FlagValues
  | [] => .ok []
  | l :: rest =>
    -- The flag library leaves these to the tools that understand them.
    if Bytes.startsWith (l :: rest) "test." then .ok []
    else
      match flags.find? (·.isLettered l) with
      | none => .error (.unknownLetter l rest)
      | some f => do
        let value := match rest with
          | e :: v :: more => if e = byte '=' then some (v :: more) else none
          | _ => none
        match value with
        | some v => return [(f.name, ← f.read v)]
        | none => return (← readLetters flags rest) ++ [(f.name, .switch true)]

/-- Arguments sorted into the values of flags and operands. -/
structure Arguments where
  values : FlagValues
  operands : List Bytes
  deriving DecidableEq, Repr

/-- Adds values that were given before all others. -/
def Arguments.giving (vs : FlagValues) (p : Arguments) : Arguments :=
  { p with values := p.values ++ vs }

/-- Reads arguments from the left; the first one that is refused decides. -/
def Arguments.read (flags : List Flag) : List Bytes → Except FlagError Arguments
  | [] => .ok ⟨[], []⟩
  | a :: rest =>
    match Argument.of a with
    | .operand => do
      let p ← Arguments.read flags rest
      return { p with operands := a :: p.operands }
    | .lastFlag => .ok ⟨[], rest⟩
    | .malformed => .error (.malformed a)
    | .letters s => do
      let vs ← readLetters flags s
      return (← Arguments.read flags rest).giving vs
    | .long name value =>
      match flags.find? (·.isNamed name) with
      | none => .error (.unknown name)
      | some f =>
        match value with
        | some v => do
          let x ← f.read v
          return (← Arguments.read flags rest).giving [(f.name, x)]
        | none =>
          if f.isSwitch then do
            return (← Arguments.read flags rest).giving [(f.name, .switch true)]
          else
            match rest with
            | [] => .error (.needsValue f)
            -- A flag that is not a switch takes the next argument, even one that looks like a flag.
            | v :: more => do
              let x ← f.read v
              return (← Arguments.read flags more).giving [(f.name, x)]

/-- Whether an argument looks like a flag that takes the next argument. Of an unknown flag this is
assumed. -/
def usesNext (known : List Flag) (a : Bytes) : Bool :=
  match a with
  | d :: e :: rest =>
    if d ≠ byte '-' ∨ a.contains (byte '=') then false
    else if e = byte '-' then !known.any fun f => f.isSwitch && f.isNamed rest
    else rest.isEmpty && !known.any (·.isLettered e)
  | _ => false

/-- The operands among arguments, judged by the flags that are known. -/
def operands (known : List Flag) : List Bytes → List Bytes
  | [] => []
  | a :: rest =>
    if a = utf8 "--" then []
    else if usesNext known a then
      match rest with
      | _ :: next :: more => operands known (next :: more)
      | _ => []
    else if a = [] ∨ a.head? = some (byte '-') then operands known rest
    else a :: operands known rest

/-- The arguments without the first operand of a name. -/
def dropOperand (known : List Flag) (name : Bytes) : List Bytes → List Bytes
  | [] => []
  | a :: rest =>
    if a = utf8 "--" then a :: rest
    else if usesNext known a then
      match rest with
      | v :: more => a :: v :: dropOperand known name more
      | [] => [a]
    else if a = name then rest
    else a :: dropOperand known name rest

end DocPull.Cli
