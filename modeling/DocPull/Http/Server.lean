import DocPull.Files.Path
import DocPull.Http.MediaType
import DocPull.Url.Basic

/-!
# Requests before they are handled

A server reads the first line of a request before anything else. Its handler is registered for the
root and everything below it, for requests that ask for a page or for its headers. A request for a
path that is not in its shortest form is sent to that form, and the handler does not see it; neither
does it see a request with another method, one that names no path, or one with too long a head.
-/
namespace DocPull.Http

/-- A method is a token of the protocol, which excludes braces besides the separators. -/
def isMethod (s : Bytes) : Bool :=
  s != [] && s.all fun b => MediaType.isTokenByte b && b != byte '\x7b' && b != byte '\x7d'

/-- The target of a request as a URL: a path with a query, a whole URL, or a star. Blanks would end
the target within its line. -/
def readTarget? (target : Bytes) : Option Url :=
  if target.any fun b => b ≤ 0x20 || b == 0x7F then none
  else if target.head? = some (byte '/') then
    let (path, query, bare) := Url.splitQuery target
    (Url.readShown .path path).toOption.map fun shown =>
      { Url.empty with path := shown, query := query, bareQuery := bare }
  else (Url.readPlain target).toOption.filter fun u => u.scheme != [] || target == utf8 "*"

/-- The shortest form of a path; a slash at its end is kept. -/
def cleanPath (path : Bytes) : Bytes :=
  let rooted := if path.head? = some (byte '/') then path else byte '/' :: path
  let short := Path.clean rooted
  if Bytes.endsWith rooted "/" && short != utf8 "/" then short ++ [byte '/'] else short

/-- The bytes that are read of a request before its body: a mebibyte and the reader's buffer. -/
def maxHead : Nat := 1024 * 1024 + 4096

/-- What becomes of a request. -/
inductive Route where
  | tooLong
  | unreadable
  /-- The request is for the server and not for a path. -/
  | pathless (status : Nat)
  | moved (target : Bytes)
  | notAllowed
  /-- The handler gets the request, with its query. -/
  | handled (query : Bytes)
  deriving DecidableEq, Repr

/-- Where a request goes, given the number of bytes of its header fields and the empty line behind
them. A connection is asked for by naming a host alone, and its path is not cleaned. -/
def route (method target : Bytes) (fields : Nat) : Route :=
  let line := text [method, " ", target, " HTTP/1.1\r\n"]
  let connects := method == utf8 "CONNECT"
  let hostAlone := connects && target.head? != some (byte '/')
  if maxHead < line.length then .tooLong
  else
    match readTarget? (if hostAlone then utf8 "http://" ++ target else target) with
    | none => .unreadable
    | some u =>
      let path := cleanPath u.path
      -- The reader of requests comes before any routing, and the first line before the fields.
      if !isMethod method then .unreadable
      else if maxHead < line.length + fields then .tooLong
      else if target = utf8 "*" then .pathless (if method = utf8 "OPTIONS" then 200 else 400)
      -- Only the path decides; the query travels along.
      else if !connects && path != u.path then
        .moved { Url.empty with path := Url.escape .path path, query := u.query }.toText
      else if method = utf8 "GET" ∨ method = utf8 "HEAD" then .handled u.query
      else .notAllowed

end DocPull.Http
