import DocPull.Url.Address
import DocPull.Url.Escape

/-!
# URLs and references

A reference is read into its parts. Paths and fragments are kept in the escaped form in which
they are shown; user names, passwords and host names are kept unescaped. Resolving a reference
against a base follows the usual merging of paths.
-/
namespace DocPull

/-- The name before a host, with an optional password. -/
structure Userinfo where
  name : Bytes
  password : Option Bytes
  deriving DecidableEq, Repr

/-- A user name and password as they are written. -/
def Userinfo.written (u : Userinfo) : Bytes :=
  match u.password with
  | none => Url.escape .user u.name
  | some password => text [Url.escape .user u.name, ":", Url.escape .user password]

/-- A URL, or a reference relative to one. -/
structure Url where
  scheme : Bytes
  /-- What follows the scheme when it begins with no slash; such a URL has no host or path. -/
  rootless : Bytes
  user : Option Userinfo
  host : Bytes
  /-- The path, escaped. -/
  path : Bytes
  query : Bytes
  /-- A question mark is shown even when the query is empty. -/
  bareQuery : Bool
  /-- The fragment, escaped. -/
  fragment : Bytes
  /-- A path stood directly after the scheme. -/
  hostless : Bool
  deriving DecidableEq, Repr

namespace Url

def empty : Url := ⟨[], [], none, [], [], [], false, [], false⟩

inductive Problem where
  | controlCharacter
  | missingScheme
  | colonInFirstSegment
  | unclosedHost
  /-- Brackets that do not enclose an address of groups from the start of the host. -/
  | notBracketed
  | badAddress (e : Address.Error)
  | badPort (port : Bytes)
  | badUser
  | badEscape (e : EscapeError)
  deriving DecidableEq, Repr

def Problem.message : Problem → Bytes
  | controlCharacter => "net/url: invalid control character in URL"
  | missingScheme => "missing protocol scheme"
  | colonInFirstSegment => "first path segment in URL cannot contain colon"
  | unclosedHost => "missing ']' in host"
  | notBracketed => "invalid IP-literal"
  | badAddress e => text ["invalid host: ", e.message]
  | badPort port => text ["invalid port ", Quoted.quote port, " after host"]
  | badUser => "net/url: invalid userinfo"
  | badEscape e => e.message

/-- A refused reference, with the text that was read. -/
structure ParseError where
  input : Bytes
  problem : Problem
  deriving DecidableEq, Repr

def ParseError.message (e : ParseError) : Bytes :=
  text ["parse ", Quoted.quote e.input, ": ", e.problem.message]

/-- Unescapes, in the terms of this module. -/
def unescaped (part : Part) (s : Bytes) : Except Problem Bytes :=
  (unescape part s).mapError .badEscape

/-- The scheme and what follows its colon. A text that begins with no scheme has an empty one. -/
def splitScheme (s : Bytes) : Except Problem (Bytes × Bytes) :=
  let name := s.takeWhile fun b => Bytes.isLetter b || Bytes.isDigit b || isOneOf "+-." b
  match s.drop name.length with
  | b :: rest =>
    if b ≠ byte ':' then .ok ([], s)
    else
      match name with
      | [] => .error .missingScheme
      | first :: _ =>
        if Bytes.isLetter first then .ok (name.map Bytes.lower, rest) else .ok ([], s)
  | [] => .ok ([], s)

/-- Splits a query off: the rest, the query, and whether its question mark stands alone. -/
def splitQuery (s : Bytes) : Bytes × Bytes × Bool :=
  match Bytes.cut (byte '?') s with
  | none => (s, [], false)
  | some (rest, query) => (rest, query, query.isEmpty)

/-- Whether a text is empty or a colon with digits. -/
def isPort : Bytes → Bool
  | [] => true
  | b :: digits => b == byte ':' && digits.all Bytes.isDigit

/-- The bytes before the first occurrence of a text, and the rest from there on. -/
def splitBefore? (part : Bytes) : Bytes → Option (Bytes × Bytes)
  | [] => none
  | b :: rest =>
    if Bytes.startsWith (b :: rest) part then some ([], b :: rest)
    else (splitBefore? part rest).map fun (before, after) => (b :: before, after)

/-- What stands between brackets, unescaped: an address that may name a zone. -/
def readBracketed (inside : Bytes) : Except Problem Bytes := do
  match splitBefore? "%25" inside with
  | some (address, zone) => return (← unescaped .host address) ++ (← unescaped .zone zone)
  | none => unescaped .host inside

/-- A host name or an address in brackets, with an optional port. -/
def readHost (s : Bytes) : Except Problem Bytes := do
  match Bytes.cutLast (byte '[') s with
  | some (_ :: _, _) => throw .notBracketed
  | some ([], opened) =>
    let some (inside, port) := Bytes.cutLast (byte ']') opened | throw .unclosedHost
    unless isPort port do throw (.badPort port)
    let port ← unescaped .host port
    let address ← readBracketed inside
    match Address.family address with
    | .error e => throw (.badAddress e)
    | .ok .fields => throw .notBracketed
    | .ok .groups => return text ["[", address, "]", port]
  | none =>
    match Bytes.cutLast (byte ':') s with
    | some (_, digits) =>
      unless isPort (byte ':' :: digits) do throw (.badPort (byte ':' :: digits))
      unescaped .host s
    | none => unescaped .host s

/-- Whether a byte may stand in a written user name and password. -/
def isUserByte (b : UInt8) : Bool :=
  Bytes.isLetter b || Bytes.isDigit b || isOneOf "-._:~!$&'()*+,;=%@" b

/-- A user name with an optional password. -/
def readUser (s : Bytes) : Except Problem Userinfo := do
  unless s.all isUserByte do throw .badUser
  match Bytes.cut (byte ':') s with
  | none => return ⟨← unescaped .user s, none⟩
  | some (name, password) =>
    let name ← unescaped .user name
    return ⟨name, some (← unescaped .user password)⟩

/-- What stands between the two slashes and the path. -/
def readAuthority (s : Bytes) : Except Problem (Option Userinfo × Bytes) := do
  match Bytes.cutLast (byte '@') s with
  | none => return (none, ← readHost s)
  | some (user, host) =>
    let host ← readHost host
    return (some (← readUser user), host)

/-- A written path or fragment in the form in which it is shown. A path that is an escaped star is
shown as the star. -/
def readShown (part : Part) (s : Bytes) : Except Problem Bytes :=
  (unescaped part s).map fun meaning =>
    if part = .path ∧ meaning = utf8 "*" ∧ s = escape .path meaning then meaning
    else shownAs part meaning s

/-- The bytes before the first slash. -/
def firstSegment (s : Bytes) : Bytes := s.takeWhile (· != byte '/')

/-- Reads a reference that has no fragment. -/
def readPlain (s : Bytes) : Except Problem Url := do
  if s.any fun b => b < 0x20 || b == 0x7F then throw .controlCharacter
  if s = utf8 "*" then return { empty with path := s }
  let (scheme, rest) ← splitScheme s
  let (rest, query, bare) := splitQuery rest
  let u : Url := { empty with scheme := scheme, query := query, bareQuery := bare }
  if rest.head? ≠ some (byte '/') then
    if scheme ≠ [] then return { u with rootless := rest }
    if (firstSegment rest).contains (byte ':') then throw .colonInFirstSegment
  match Bytes.after? "//" rest with
  | some after =>
    if scheme ≠ [] ∨ after.head? ≠ some (byte '/') then
      let authority := firstSegment after
      let (user, host) ← readAuthority authority
      let path ← readShown .path (after.drop authority.length)
      return { u with user := user, host := host, path := path }
    else return { u with path := ← readShown .path rest }
  | none =>
    let hostless := scheme ≠ [] && rest.head? == some (byte '/')
    return { u with path := ← readShown .path rest, hostless := hostless }

def parse (s : Bytes) : Except ParseError Url :=
  let (plain, fragment) := (Bytes.cut (byte '#') s).getD (s, [])
  match readPlain plain with
  | .error p => .error ⟨plain, p⟩
  | .ok u =>
    match readShown .fragment fragment with
    | .error p => .error ⟨s, p⟩
    | .ok f => .ok { u with fragment := f }

/-- Whether a URL has neither host nor user and was written without room for them. -/
def lacksHost (u : Url) : Bool := u.hostless && u.host.isEmpty && u.user.isNone

/-- The part of a shown URL between the scheme and the path. -/
def showHost (u : Url) : Bytes :=
  if u.scheme = [] ∧ u.host = [] ∧ u.user = none then []
  else if u.lacksHost then []
  else
    let slashes := if u.host ≠ [] ∨ u.path ≠ [] ∨ u.user ≠ none then utf8 "//" else []
    let user := match u.user with
      | some user => user.written ++ [byte '@']
      | none => []
    text [slashes, user, escape .host u.host]

/-- The path of a shown URL, after what stands before it. A relative path whose first segment
would be taken for a scheme is marked as relative, and of two slashes that would be taken for the
beginning of a host the first is escaped. -/
def showPath (u : Url) (before : Bytes) : Bytes :=
  -- Read again, two slashes here would begin a host.
  match u.lacksHost, Bytes.after? "//" u.path with
  | true, some rest => text [before, "%2F/", rest]
  | _, _ =>
    let slash := if u.path ≠ [] ∧ u.path.head? ≠ some (byte '/') ∧ u.host ≠ [] then utf8 "/" else []
    let dot :=
      if before = [] ∧ slash = [] ∧ (firstSegment u.path).contains (byte ':') then utf8 "./" else []
    text [before, slash, dot, u.path]

def toText (u : Url) : Bytes :=
  let scheme := if u.scheme = [] then [] else u.scheme ++ [byte ':']
  let body :=
    if u.rootless ≠ [] then scheme ++ u.rootless
    else u.showPath (scheme ++ u.showHost)
  let query := if u.bareQuery ∨ u.query ≠ [] then byte '?' :: u.query else []
  let fragment := if u.fragment ≠ [] then byte '#' :: u.fragment else []
  text [body, query, fragment]

/-- The text of a URL with its password masked. -/
def masked (u : Url) : Bytes :=
  match u.user with
  | some ⟨name, some password⟩ =>
    Bytes.replaceFirst u.toText (Userinfo.written ⟨name, some password⟩ ++ [byte '@'])
      (text [name, ":***@"])
  | _ => u.toText

/-- The segments of a path without dot segments: a dot stands for the root or for nothing, and
two dots drop the segment before them, with the root when only that is left. The kept segments are
held with the last one first. -/
def dropDots : (kept : List Bytes) → List Bytes → List Bytes
  | kept, [] => kept.reverse
  | kept, s :: rest =>
    if s = utf8 "." then dropDots (if kept.isEmpty then [[]] else kept) rest
    else if s = utf8 ".." then dropDots (if kept.tail = [[]] then [] else kept.tail) rest
    else dropDots (s :: kept) rest

/-- A path after merging a relative one into it, with a leading slash and without dot segments. -/
def mergePath (base ref : Bytes) : Bytes :=
  let full := match ref with
    | [] => base
    | b :: _ =>
      if b = byte '/' then ref
      else
        match Bytes.cutLast (byte '/') base with
        | some (folder, _) => folder ++ byte '/' :: ref
        | none => ref
  if full = [] then []
  else
    let segments := Bytes.split (byte '/') full
    let merged := byte '/' :: Bytes.join "/" (dropDots [] segments)
    let last := segments.getLastD []
    let closed := if last = utf8 "." ∨ last = utf8 ".." then merged ++ [byte '/'] else merged
    match closed with
    | _ :: s :: rest => if s = byte '/' then s :: rest else closed
    | _ => closed

/-- A path in the form in which it is shown; one that cannot be unescaped is dropped. -/
def reshown (path : Bytes) : Bytes := ((readShown .path path).toOption).getD []

/-- The URL that a reference means, seen from a base. -/
def resolve (base ref : Url) : Url :=
  let url := { ref with scheme := if ref.scheme = [] then base.scheme else ref.scheme }
  -- A reference of its own keeps nothing of the base but, at most, the scheme.
  if ref.scheme ≠ [] ∨ ref.host ≠ [] ∨ ref.user ≠ none then
    { url with path := reshown (mergePath ref.path []) }
  else if ref.rootless ≠ [] then { url with user := none, host := [], path := [] }
  else
    let inherits := ref.path = [] ∧ !ref.bareQuery ∧ ref.query = []
    let url := if inherits then
        { url with
          query := base.query
          fragment := if ref.fragment = [] then base.fragment else ref.fragment }
      else url
    if ref.path = [] ∧ base.rootless ≠ [] then
      { url with rootless := base.rootless, user := none, host := [], path := [] }
    else
      { url with
        host := base.host, user := base.user, path := reshown (mergePath base.path ref.path) }

/-- The host without its port and without the brackets of an address. -/
def hostName (u : Url) : Bytes :=
  let host := match Bytes.cutLast (byte ':') u.host with
    | some (name, port) => if port.all Bytes.isDigit then name else u.host
    | none => u.host
  match Bytes.after? "[" host with
  | some inside => (Bytes.before? "]" inside).getD host
  | none => host

/-- The URL without a colon that no port follows. -/
def withoutEmptyPort (u : Url) : Url :=
  { u with host := (Bytes.before? ":" u.host).getD u.host }

end Url

end DocPull
