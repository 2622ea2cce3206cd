import DocPull.Files.Path

/-!
# Where files are found

Configuration and data live in directories of their own below the user's home, unless the
environment says otherwise. Without a home nothing has a default place.

Only the places on Linux are given here. On macOS both directories are one, in the user's library,
and no variable moves it; on other systems they are those below the home, and no variable moves them
either.
-/
namespace DocPull.Config

abbrev Environment := List (Bytes × Bytes)

/-- The value of a variable; empty when it is not set. -/
def Environment.get (env : Environment) (name : String) : Bytes := (env.lookup (utf8 name)).getD []

def appName : String := "grabdoc"

/-- The user's home, when there is one. -/
def home? (env : Environment) : Option Bytes :=
  let home := env.get "HOME"
  if home = [] then none else some home

/-- A directory of the program: in the place that a variable names, or else below the home. -/
def appDir (env : Environment) (envName : String) (fallback : List String) : Option Bytes :=
  (home? env).map fun home =>
    let base := env.get envName
    if base ≠ [] then Path.join [base, appName]
    else Path.join (home :: fallback.map utf8 ++ [utf8 appName])

def configDir (env : Environment) : Bytes := (appDir env "XDG_CONFIG_HOME" [".config"]).getD []

/-- The directory of the saved credential. -/
def dataDir (env : Environment) : Bytes := (appDir env "XDG_DATA_HOME" [".local", "share"]).getD []

/-- A file in a directory, when there is a directory. -/
def fileIn (dir : Bytes) (name : String) : Bytes := if dir = [] then [] else Path.join [dir, name]

def configPath (env : Environment) : Bytes := fileIn (configDir env) "config.toml"

/-- The default place of the client identity. -/
def clientSecretPath (env : Environment) : Bytes := fileIn (configDir env) "client_secret.json"

/-- The default place of the saved credential. -/
def tokenPath (env : Environment) : Bytes := fileIn (dataDir env) "token.json"

/-- A path with a leading `~/` replaced by the user's home. -/
def expandHome (env : Environment) (path : Bytes) : Bytes :=
  match Bytes.after? "~/" path, home? env with
  | some rest, some home => Path.join [home, rest]
  | _, _ => path

end DocPull.Config
