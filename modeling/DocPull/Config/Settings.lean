import DocPull.Bytes

/-!
# Settings

The settings of the program in five sections. Most of them are texts; a text setting is named by a
value of its own, so that reading, overriding and checking can speak about any setting. Scopes are
the one list.
-/
namespace DocPull.Config

/-- Where the client identity and the saved credential are found, and what access is asked for. A
client id wins over a client secret file. -/
structure AuthSettings where
  clientSecretFile : Bytes
  clientId : Bytes
  clientSecret : Bytes
  tokenFile : Bytes
  scopes : List Bytes
  deriving DecidableEq, Repr

structure ExportSettings where
  fileId : Bytes
  mimeType : Bytes
  output : Bytes
  chunkSize : Bytes
  deriving DecidableEq, Repr

/-- The published document to fetch. A URL wins over a key. -/
structure FetchSettings where
  url : Bytes
  key : Bytes
  deriving DecidableEq, Repr

structure LoggingSettings where
  logLevel : Bytes
  deriving DecidableEq, Repr

structure NetworkSettings where
  timeout : Bytes
  userAgent : Bytes
  driveEndpoint : Bytes
  deriving DecidableEq, Repr

structure Settings where
  auth : AuthSettings
  exporting : ExportSettings
  fetch : FetchSettings
  logging : LoggingSettings
  network : NetworkSettings
  deriving DecidableEq, Repr

/-- The settings nobody has changed. -/
def defaults : Settings where
  auth := ⟨[], [], [], [], ["https://www.googleapis.com/auth/drive"]⟩
  exporting :=
    ⟨"1SMzWMEmFuU1hup492dL4VL4LpXWfnUgqsZEgIJAUjBs",
      "application/vnd.openxmlformats-officedocument.wordprocessingml.document", "out.docx",
      "100MiB"⟩
  fetch := ⟨[], "0ArM5yzzCw9IZdEdLWlpHT1FCcUpYQ2RjWmZYWmNwbXc"⟩
  logging := ⟨"warn"⟩
  network := ⟨"60s", [], []⟩

/-- The sections, in alphabetical order. -/
inductive Section where
  | auth
  | exporting
  | fetch
  | logging
  | network
  deriving DecidableEq, Repr

inductive Setting where
  | clientSecretFile
  | clientId
  | clientSecret
  | tokenFile
  | scopes
  | fileId
  | mimeType
  | output
  | chunkSize
  | url
  | key
  | logLevel
  | timeout
  | userAgent
  | driveEndpoint
  deriving DecidableEq, Repr

namespace Section

def all : List Section := [auth, exporting, fetch, logging, network]

def name : Section → String
  | auth => "auth"
  | exporting => "export"
  | fetch => "fetch"
  | logging => "logging"
  | network => "network"

def settings : Section → List Setting
  | auth => [.clientSecretFile, .clientId, .clientSecret, .tokenFile, .scopes]
  | exporting => [.fileId, .mimeType, .output, .chunkSize]
  | fetch => [.url, .key]
  | logging => [.logLevel]
  | network => [.timeout, .userAgent, .driveEndpoint]

end Section

namespace Setting

def name : Setting → String
  | clientSecretFile => "client_secret_file"
  | clientId => "client_id"
  | clientSecret => "client_secret"
  | tokenFile => "token_file"
  | scopes => "scopes"
  | fileId => "file_id"
  | mimeType => "mime_type"
  | output => "output"
  | chunkSize => "chunk_size"
  | url => "url"
  | key => "key"
  | logLevel => "log_level"
  | timeout => "timeout"
  | userAgent => "user_agent"
  | driveEndpoint => "drive_endpoint"

/-- Sets a setting that is a text; scopes are left alone. -/
def setText (f : Setting) (v : Bytes) (c : Settings) : Settings :=
  match f with
  | clientSecretFile => { c with auth := { c.auth with clientSecretFile := v } }
  | clientId => { c with auth := { c.auth with clientId := v } }
  | clientSecret => { c with auth := { c.auth with clientSecret := v } }
  | tokenFile => { c with auth := { c.auth with tokenFile := v } }
  | scopes => c
  | fileId => { c with exporting := { c.exporting with fileId := v } }
  | mimeType => { c with exporting := { c.exporting with mimeType := v } }
  | output => { c with exporting := { c.exporting with output := v } }
  | chunkSize => { c with exporting := { c.exporting with chunkSize := v } }
  | url => { c with fetch := { c.fetch with url := v } }
  | key => { c with fetch := { c.fetch with key := v } }
  | logLevel => { c with logging := { c.logging with logLevel := v } }
  | timeout => { c with network := { c.network with timeout := v } }
  | userAgent => { c with network := { c.network with userAgent := v } }
  | driveEndpoint => { c with network := { c.network with driveEndpoint := v } }

/-- The value of a setting that is a text; scopes have none. -/
def getText (f : Setting) (c : Settings) : Bytes :=
  match f with
  | clientSecretFile => c.auth.clientSecretFile
  | clientId => c.auth.clientId
  | clientSecret => c.auth.clientSecret
  | tokenFile => c.auth.tokenFile
  | scopes => []
  | fileId => c.exporting.fileId
  | mimeType => c.exporting.mimeType
  | output => c.exporting.output
  | chunkSize => c.exporting.chunkSize
  | url => c.fetch.url
  | key => c.fetch.key
  | logLevel => c.logging.logLevel
  | timeout => c.network.timeout
  | userAgent => c.network.userAgent
  | driveEndpoint => c.network.driveEndpoint

end Setting

def Settings.setScopes (scopes : List Bytes) (c : Settings) : Settings :=
  { c with auth := { c.auth with scopes := scopes } }

end DocPull.Config
