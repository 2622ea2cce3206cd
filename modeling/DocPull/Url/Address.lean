import DocPull.Text.Quoted

/-!
# Numeric addresses

A host in brackets is an address of eight groups of hexadecimal digits, separated by colons. One
run of zero groups may be left out, the last two groups may be written as four decimal fields, and
a zone may follow a percent sign. Four decimal fields alone are the older kind of address.
-/
namespace DocPull.Address

inductive Family where
  | fields
  | groups
  deriving DecidableEq, Repr

inductive Fault where
  | noAddress
  | noSeparator
  | emptyZone
  | fieldLeadingZero
  | fieldTooLarge
  | fieldEmpty
  | tooManyFields
  | fieldCharacter
  | tooFewFields
  | groupTooLong
  | groupEmpty
  | fieldsMisplaced
  | noRoomForFields
  | noColon
  | colonLast
  | twoGaps
  | tooManyGroups
  | tooFewGroups
  | gapOfNothing
  deriving DecidableEq, Repr

def Fault.message : Fault → String
  | noAddress => "missing IPv6 address"
  | noSeparator => "unable to parse IP"
  | emptyZone => "zone must be a non-empty string"
  | fieldLeadingZero => "IPv4 field has octet with leading zero"
  | fieldTooLarge => "IPv4 field has value >255"
  | fieldEmpty => "IPv4 field must have at least one digit"
  | tooManyFields => "IPv4 address too long"
  | fieldCharacter => "unexpected character"
  | tooFewFields => "IPv4 address too short"
  | groupTooLong => "each group must have 4 or less digits"
  | groupEmpty => "each colon-separated field must have at least one digit"
  | fieldsMisplaced => "embedded IPv4 address must replace the final 2 fields of the address"
  | noRoomForFields => "too many hex fields to fit an embedded IPv4 at the end of the address"
  | noColon => "unexpected character, want colon"
  | colonLast => "colon must be followed by more characters"
  | twoGaps => "multiple :: in address"
  | tooManyGroups => "trailing garbage after address"
  | tooFewGroups => "address string too short"
  | gapOfNothing => "the :: must expand to at least one field of zeros"

/-- A fault, and the unread text where it was found, for faults that have a place. -/
structure Finding where
  fault : Fault
  unread : Bytes
  deriving DecidableEq, Repr

structure Error where
  input : Bytes
  finding : Finding
  deriving DecidableEq, Repr

def Error.message (e : Error) : Bytes :=
  let place :=
    if e.finding.unread = [] then [] else text [" (at ", Quoted.quote e.finding.unread, ")"]
  text ["ParseAddr(", Quoted.quote e.input, "): ", e.finding.fault.message, place]

/-- Reads decimal fields, given the number of fields that are complete and the value and the number
of digits of the current one. -/
def readFields (complete value digits : Nat) : Bytes → Except Finding Unit
  | [] => if complete < 3 then .error ⟨.tooFewFields, []⟩ else .ok ()
  | b :: rest =>
    if Bytes.isDigit b then
      let value' := value * 10 + (b.toNat - 0x30)
      if digits = 1 ∧ value = 0 then .error ⟨.fieldLeadingZero, []⟩
      else if 255 < value' then .error ⟨.fieldTooLarge, []⟩
      else readFields complete value' (digits + 1) rest
    else if b = byte '.' then
      if digits = 0 ∨ rest = [] then .error ⟨.fieldEmpty, b :: rest⟩
      else if complete = 3 then .error ⟨.tooManyFields, []⟩
      else readFields (complete + 1) 0 0 rest
    else .error ⟨.fieldCharacter, b :: rest⟩

/-- The check at the end of an address: what is unread, how many groups are missing, and whether a
run of groups was left out. -/
def finish (missing : Nat) (gap : Bool) (unread : Bytes) : Except Finding Unit :=
  if unread ≠ [] then .error ⟨.tooManyGroups, unread⟩
  else if missing ≠ 0 ∧ !gap then .error ⟨.tooFewGroups, []⟩
  else if missing = 0 ∧ gap then .error ⟨.gapOfNothing, []⟩
  else .ok ()

/-- Reads groups, given how many are missing and whether a run of groups was left out. -/
def readGroups : (missing : Nat) → (gap : Bool) → Bytes → Except Finding Unit
  | 0, gap, s => finish 0 gap s
  | missing + 1, gap, s =>
    let digits := s.takeWhile fun b => (Bytes.hex? b).isSome
    if 4 < digits.length then .error ⟨.groupTooLong, s⟩
    else if digits = [] then .error ⟨.groupEmpty, s⟩
    else
      match s.drop digits.length with
      | [] => finish missing gap []
      | b :: rest =>
        if b = byte '.' then
          if !gap ∧ missing + 1 ≠ 2 then .error ⟨.fieldsMisplaced, s⟩
          else if missing = 0 then .error ⟨.noRoomForFields, s⟩
          else do
            readFields 0 0 0 s
            finish (missing - 1) gap []
        else if b ≠ byte ':' then .error ⟨.noColon, b :: rest⟩
        else
          match rest with
          | [] => .error ⟨.colonLast, [b]⟩
          | c :: more =>
            if c ≠ byte ':' then readGroups missing gap rest
            else if gap then .error ⟨.twoGaps, rest⟩
            else if more = [] then finish missing true []
            else readGroups missing true more

/-- Reads an address of groups with an optional zone. -/
def readGrouped (s : Bytes) : Except Finding Unit :=
  match Bytes.cut (byte '%') s with
  | some (_, []) => .error ⟨.emptyZone, []⟩
  | cutAt =>
    let address := (cutAt.map (·.1)).getD s
    match Bytes.after? "::" address with
    | some [] => .ok ()
    | some rest => readGroups 8 true rest
    | none => readGroups 8 false address

/-- The kind of an address, decided by its first separator. -/
def family (s : Bytes) : Except Error Family :=
  let refuse := Except.mapError fun f : Finding => Error.mk s f
  match s.find? fun b => b == byte '.' || b == byte ':' || b == byte '%' with
  | none => .error ⟨s, .noSeparator, []⟩
  | some b =>
    if b = byte '.' then refuse ((readFields 0 0 0 s).map fun _ => .fields)
    else if b = byte ':' then refuse ((readGrouped s).map fun _ => .groups)
    else .error ⟨s, .noAddress, []⟩

end DocPull.Address
