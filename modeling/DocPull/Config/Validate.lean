import DocPull.Config.Settings
import DocPull.Duration
import DocPull.Size
import DocPull.Url.Basic

/-!
# Valid settings

Every setting is checked, and all problems are reported together, section by section.
-/
namespace DocPull.Config

/-- Why a URL setting is refused. -/
inductive UrlProblem where
  | unreadable (e : Url.ParseError)
  | scheme (found : Bytes)
  deriving DecidableEq, Repr

def UrlProblem.message : UrlProblem → Bytes
  | unreadable e => e.message
  | scheme s => text ["scheme must be http or https, got ", Quoted.quote s]

inductive Problem where
  | noScopes
  | emptyScope
  | secretWithoutId
  | mimeType (found : Bytes)
  | chunkSize (e : Size.Error)
  | chunkRange (found : Bytes)
  | fetchUrl (p : UrlProblem)
  | logLevel (found : Bytes)
  | timeout (e : Duration.Error)
  | timeoutRange (found : Int)
  | driveEndpoint (p : UrlProblem)
  deriving DecidableEq, Repr

/-- The smallest and largest size of a chunk, in bytes. -/
def minChunk : Int := 256 * 1024
def maxChunk : Int := 1073741824

/-- The shortest and longest timeout, in nanoseconds. -/
def minTimeout : Int := Duration.second
def maxTimeout : Int := 3600 * Duration.second

def Problem.message : Problem → Bytes
  | noScopes => "auth.scopes: at least one scope is required"
  | emptyScope => "auth.scopes: empty scope"
  | secretWithoutId => "auth.client_secret: set without auth.client_id"
  | mimeType m => text ["export.mime_type: ", Quoted.quote m, " is not a MIME type"]
  | chunkSize e => text ["export.chunk_size: ", e.message]
  | chunkRange s =>
    text ["export.chunk_size: must be between 256KiB and 1GiB, got ", Quoted.quote s]
  | fetchUrl p => text ["fetch.url: ", p.message]
  | logLevel l =>
    text ["logging.log_level: must be one of debug, info, warn, error; got ", Quoted.quote l]
  | timeout e => text ["network.timeout: ", e.message]
  | timeoutRange d =>
    text ["network.timeout: must be between ", Duration.format minTimeout, " and ",
      Duration.format maxTimeout, ", got ", Duration.format d]
  | driveEndpoint p => text ["network.drive_endpoint: ", p.message]

/-- The problem with a URL that must be fetched over HTTP. -/
def urlProblem? (s : Bytes) : Option UrlProblem :=
  match Url.parse s with
  | .error e => some (.unreadable e)
  | .ok u =>
    if u.scheme = utf8 "http" ∨ u.scheme = utf8 "https" then none else some (.scheme u.scheme)

def authProblems (a : AuthSettings) : List Problem :=
  (if a.scopes.isEmpty then [.noScopes] else []) ++
    (a.scopes.filter fun s => (Blank.trim s).isEmpty).map (fun _ => .emptyScope) ++
    if a.clientSecret ≠ [] ∧ a.clientId = [] then [.secretWithoutId] else []

def exportProblems (e : ExportSettings) : List Problem :=
  let mime : List Problem :=
    -- Three bytes with a slash among them are enough.
    if e.mimeType ≠ [] ∧ (e.mimeType.length < 3 ∨ !e.mimeType.contains (byte '/')) then
      [.mimeType e.mimeType]
    else []
  let chunk : List Problem := match Size.parse e.chunkSize with
    | .error err => [.chunkSize err]
    | .ok n => if n < minChunk ∨ maxChunk < n then [.chunkRange e.chunkSize] else []
  mime ++ chunk

def fetchProblems (f : FetchSettings) : List Problem :=
  if f.url = [] then [] else ((urlProblem? f.url).map .fetchUrl).toList

def logLevels : List String := ["debug", "info", "warn", "error"]

def loggingProblems (l : LoggingSettings) : List Problem :=
  if logLevels.any fun name => utf8 name == l.logLevel then [] else [.logLevel l.logLevel]

/-- The first problem with the settings for requests. -/
def networkProblems (n : NetworkSettings) : List Problem :=
  -- A timeout that is refused leaves the endpoint unread.
  match Duration.parse n.timeout with
  | .error e => [.timeout e]
  | .ok d =>
    if d < minTimeout ∨ maxTimeout < d then [.timeoutRange d]
    else if n.driveEndpoint = [] then []
    else ((urlProblem? n.driveEndpoint).map .driveEndpoint).toList

/-- All problems with the settings, in order. -/
def problems (c : Settings) : List Problem :=
  authProblems c.auth ++ exportProblems c.exporting ++ fetchProblems c.fetch ++
    loggingProblems c.logging ++ networkProblems c.network

end DocPull.Config
