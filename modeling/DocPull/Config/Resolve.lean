import DocPull.Config.Locations
import DocPull.Config.Unknown
import DocPull.Config.Validate
import DocPull.Failure
import DocPull.Files.Tree

/-!
# Effective settings

Settings come in layers: defaults, the configuration file, the environment, the command line. A
layer overrides the ones before it where it says something. Paths that nobody set get their
default places, and the result is checked as a whole.
-/
namespace DocPull.Config

/-- Why settings could not be loaded. -/
inductive Error where
  | unreadableFile (path : Bytes) (e : Files.PathError)
  | malformed (path : Bytes)
  | unknown (keys : List UnknownKey)
  /-- The file alone does not pass the checks. -/
  | invalidFile (ps : List Problem)
  /-- All layers together do not pass the checks. -/
  | invalid (ps : List Problem)
  | noTokenFile
  deriving DecidableEq, Repr

def lines (messages : List Bytes) : Bytes := Bytes.join "\n" messages

def Error.message : Error → Bytes
  | unreadableFile path e => text ["parsing config file ", path, ": ", e.message]
  | malformed path => text ["parsing config file ", path, ": malformed TOML"]
  | unknown keys => lines (keys.map UnknownKey.message)
  | invalidFile ps => text ["config validation failed: ", lines (ps.map Problem.message)]
  | invalid ps => text ["config validation: ", lines (ps.map Problem.message)]
  | noTokenFile => "config validation: auth.token_file: no default location, set it explicitly"

instance : Failure Error := ⟨Error.message, fun _ _ => false⟩

/-- The settings that a document gives, before any check of their values. -/
def readSettings (path content : Bytes) : Except Error Settings :=
  match Toml.parse? content with
  | none => .error (.malformed path)
  | some d =>
    match applyDocument d defaults with
    | none => .error (.malformed path)
    | some c =>
      match reportKeys [] (unknownKeys d) with
      | [] => .ok c
      | keys => .error (.unknown keys)

/-- The settings that a file gives. -/
def load (t : Files.Tree) (path : Bytes) : Except Error Settings :=
  match t.read path with
  | .error e => .error (.unreadableFile path e)
  | .ok content => do
    let c ← readSettings path content
    match problems c with
    | [] => pure c
    | ps => throw (.invalidFile ps)

/-- The settings that a file gives, or the defaults when there is none. -/
def loadOrDefault (t : Files.Tree) (path : Bytes) : Except Error Settings :=
  if path = [] then .ok defaults
  else if t.isMissing path then .ok defaults
  else load t path

/-- What the command line says about settings. An empty value says nothing. -/
structure Overrides where
  configPath : Bytes := []
  mimeType : Bytes := []
  output : Bytes := []
  fileId : Bytes := []
  deriving DecidableEq, Repr

/-- Settings in effect, with sizes and durations read. -/
structure Resolved where
  settings : Settings
  /-- The file that was read, or would have been read. -/
  configPath : Bytes
  /-- The size of a chunk in bytes. -/
  chunkSize : Int
  /-- The timeout in nanoseconds. -/
  timeout : Int
  deriving DecidableEq, Repr

/-- A value, unless it is empty. -/
def orElse (value fallback : Bytes) : Bytes := if value = [] then fallback else value

/-- The settings after the environment and the command line had their say. -/
def override (env : Environment) (cli : Overrides) (c : Settings) : Settings :=
  let a := c.auth
  let e := c.exporting
  { c with
    auth := { a with
      -- A variable that is set to nothing is as good as none.
      clientId := orElse (env.get "GRABDOC_CLIENT_ID") a.clientId
      clientSecret := orElse (env.get "GRABDOC_CLIENT_SECRET") a.clientSecret
      tokenFile := orElse (env.get "GRABDOC_TOKEN_FILE") a.tokenFile }
    exporting := { e with
      fileId := orElse cli.fileId e.fileId
      mimeType := orElse cli.mimeType e.mimeType
      output := orElse cli.output e.output } }

/-- The settings with default places for paths that nobody set, and with the home spelled out. -/
def place (env : Environment) (c : Settings) : Settings :=
  let a := c.auth
  { c with
    auth := { a with
      tokenFile := expandHome env (orElse a.tokenFile (tokenPath env))
      clientSecretFile := expandHome env (orElse a.clientSecretFile (clientSecretPath env)) }
    exporting := { c.exporting with output := expandHome env c.exporting.output } }

/-- The configuration file: the command line's, the environment's, or the default one. -/
def chosenPath (env : Environment) (cli : Overrides) : Bytes :=
  expandHome env (orElse cli.configPath (orElse (env.get "GRABDOC_CONFIG") (configPath env)))

/-- Sizes and durations read; settings that passed the checks have both. -/
def Resolved.ofSettings (c : Settings) (path : Bytes) : Resolved :=
  ⟨c, path, ((Size.parse c.exporting.chunkSize).toOption).getD 0,
    ((Duration.parse c.network.timeout).toOption).getD 0⟩

/-- The settings in effect. -/
def resolve (t : Files.Tree) (env : Environment) (cli : Overrides) : Except Error Resolved := do
  let path := chosenPath env cli
  let loaded ← loadOrDefault t path
  let c := place env (override env cli loaded)
  match problems c with
  -- The token file has no check of its own: without a home it has no default place.
  | [] => if c.auth.tokenFile = [] then throw .noTokenFile else pure (.ofSettings c path)
  | ps => throw (.invalid ps)

end DocPull.Config
