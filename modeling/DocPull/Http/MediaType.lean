import DocPull.Text.Blank
import DocPull.Text.Fold

/-!
# Media types

A content type is a media type with parameters after semicolons. A parameter that is given twice
with different values makes the content type unusable; any other fault in the parameters does not
touch the media type.
-/
namespace DocPull.MediaType

/-- The characters that end a token. -/
def separators : String := "()<>@,;:\\\"/[]?="

def isSeparator (b : UInt8) : Bool := (utf8 separators).contains b

def isTokenByte (b : UInt8) : Bool := 0x20 < b && b < 0x7F && !isSeparator b

/-- A token at the front of a text, and the rest. -/
def token (s : Bytes) : Bytes × Bytes := (s.takeWhile isTokenByte, s.dropWhile isTokenByte)

/-- A quoted value after its opening quote, and what follows its closing one. A backslash escapes
separators only. -/
def quoted? : Bytes → Option (Bytes × Bytes)
  | [] => none
  | [b] => if b = byte '"' then some ([], []) else none
  | b :: c :: rest =>
    if b = byte '"' then some ([], c :: rest)
    else if b = 10 ∨ b = 13 then none
    else if b = byte '\\' ∧ isSeparator c then
      (quoted? rest).map fun (value, after) => (c :: value, after)
    else (quoted? (c :: rest)).map fun (value, after) => (b :: value, after)

/-- The value of a parameter: a quoted text or a token that is not empty. -/
def value? (s : Bytes) : Option (Bytes × Bytes) :=
  match Bytes.after? "\"" s with
  | some inside => quoted? inside
  | none =>
    let (value, rest) := token s
    if value = [] then none else some (value, rest)

/-- A parameter with its semicolon: its name in lower case, its value, and the rest. -/
def parameter? (s : Bytes) : Option (Bytes × Bytes × Bytes) := do
  let s ← Bytes.after? ";" (Blank.trimStart s)
  let (name, s) := token (Blank.trimStart s)
  guard (name != [])
  let s ← Bytes.after? "=" (Blank.trimStart s)
  let (value, rest) ← value? (Blank.trimStart s)
  pure (name.map Bytes.lower, value, rest)

/-- Whether two parameters of one name differ, among those before the first fault. Each parameter
takes a byte or more, so the length of the text bounds their number. -/
def disagree : (fuel : Nat) → (seen : List (Bytes × Bytes)) → Bytes → Bool
  | 0, _, _ => false
  | fuel + 1, seen, s =>
    match parameter? s with
    | none => false
    | some (name, value, rest) =>
      match seen.lookup name with
      | some old => old != value || disagree fuel seen rest
      | none => disagree fuel ((name, value) :: seen) rest

/-- The media type of a content type, in lower case; empty when the content type is unusable. -/
def ofContentType (contentType : Bytes) : Bytes :=
  let base := contentType.takeWhile (· != byte ';')
  let parameters := contentType.drop base.length
  if disagree parameters.length [] parameters then [] else Blank.trim (Fold.lower base)

end DocPull.MediaType
