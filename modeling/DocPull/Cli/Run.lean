import DocPull.Auth.Session
import DocPull.Cli.Error
import DocPull.Cli.Help
import DocPull.Export.FileName
import DocPull.Table

/-!
# Running a command

A run finds the command, reads its flags, checks its operands, resolves the settings, and then
does the command's work. Results are printed as text or as a JSON document; what was done is told
beside them, unless the user asked for quiet.
-/
namespace DocPull.Cli

def version : String := "dev"

/-- What a run knows of its surroundings. -/
structure Surroundings where
  environment : Config.Environment
  /-- Whether progress is shown on a terminal. -/
  terminal : Bool := false

/-- What a command works with. -/
structure Job where
  values : FlagValues
  operands : List Bytes
  resolved : Config.Resolved
  terminal : Bool

namespace Job

def json (j : Job) : Bool := j.values.isOn "json"

/-- Whether nothing but results is printed. -/
def quiet (j : Job) : Bool := j.values.isOn "quiet"

def settings (j : Job) : Config.Settings := j.resolved.settings

def tokenFile (j : Job) : Bytes := j.settings.auth.tokenFile

/-- The least level that is logged: the settings' one, unless a switch says otherwise. Quiet wins
over verbose. -/
def logLevel (j : Job) : Log.Level :=
  let level := j.settings.logging.logLevel
  if j.quiet then .error
  else if j.values.isOn "verbose" then .debug
  else if level = utf8 "debug" then .debug
  else if level = utf8 "info" then .info
  else if level = utf8 "error" then .error
  else .warn

end Job

/-- How the program names itself in requests. -/
def userAgent (r : Option Config.Resolved) : Bytes :=
  match r.map fun r => r.settings.network.userAgent with
  | some (b :: agent) => b :: agent
  | _ => text [Config.appName, "/", version]

/-- The time that a request may take, in nanoseconds; zero means any time. -/
def timeout (r : Option Config.Resolved) : Int := (r.map Config.Resolved.timeout).getD 0

def tell (j : Job) (message : Bytes) (h : Host) : Host :=
  if j.quiet then h else h.display (.status message)

def printJson (doc : Json) (h : Host) : Host := h.print (doc.print ++ [10])

/-- An object with named members. -/
def record (members : List (String × Json)) : Json :=
  .object (members.map fun (name, value) => (utf8 name, value))

/-- A list of texts, or nothing. -/
def textList (items : Option (List Bytes)) : Json :=
  match items with
  | some items => .array (items.map Json.ofText)
  | none => .null

/-- What signing in works with. -/
def authOptions (j : Job) : Auth.Options :=
  let a := j.settings.auth
  { tokenPath := a.tokenFile
    scopes := a.scopes
    clientSecretPath := a.clientSecretFile
    clientId := a.clientId
    clientSecret := a.clientSecret }

def obtain (j : Job) (h : Host) : Except Error (Auth.Options × Auth.Credential) × Host :=
  match (authOptions j).check with
  | .error e => (.error (.auth e), h)
  | .ok o =>
    match Auth.obtain o h with
    | (.error e, h) => (.error (.auth e), h)
    | (.ok c, h) => (.ok (o, c), h)

def signIn (j : Job) (h : Host) : Except Error (Drive.Client Auth.Error) × Host :=
  match obtain j h with
  | (.error e, h) => (.error e, h)
  | (.ok (o, c), h) =>
    let endpoint := j.settings.network.driveEndpoint
    let client := Drive.Client.new endpoint (userAgent (some j.resolved)) (Auth.send true)
    (.ok client, Auth.openSession o true c h)

/-- Signs in and saves the credential. -/
def login (j : Job) (h : Host) : Except Error Unit × Host :=
  match obtain j h with
  | (.error e, h) => (.error e, h)
  | (.ok (_, c), h) =>
    let done := if j.json then
        printJson (record [("token_file", .ofText j.tokenFile), ("scopes", textList c.scopes),
          ("expiry", .ofText c.token.expiry.toText)]) h
      else tell j (text ["Login successful. Token saved to ", j.tokenFile, "\n"]) h
    (.ok (), done)

def logout (j : Job) (h : Host) : Except Error Unit × Host :=
  match (authOptions j).check with
  | .error e => (.error (.auth e), h)
  | .ok o =>
    match Auth.logout o h with
    | (.error e, h) => (.error (.auth e), h)
    | (.ok _, h) => (.ok (), tell j "Logged out.\n" h)

/-- Signs in, asks the service for something and shows what it answered. -/
def asking {α : Type} (j : Job)
    (ask : Drive.Client Auth.Error → Host → Except (Drive.Error Auth.Error) α × Host)
    (failed : Drive.Error Auth.Error → Error) (shown : α → Host → Host) (h : Host) :
    Except Error Unit × Host :=
  match signIn j h with
  | (.error e, h) => (.error e, h)
  | (.ok client, h) =>
    match ask client h with
    | (.error e, h) => (.error (failed e), h)
    | (.ok a, h) => (.ok (), shown a h)

/-- Shows whose account is signed in. -/
def whoami (j : Job) (h : Host) : Except Error Unit × Host :=
  let shown (user : Drive.User) (h : Host) : Host :=
    if j.json then
      printJson (record [("display_name", .ofText user.displayName), ("email", .ofText user.email),
        ("token_file", .ofText j.tokenFile)]) h
    else
      h.print (text ["User:  ", user.displayName, " (", user.email, ")\nToken: ", j.tokenFile,
        "\n"])
  asking j Drive.about .user shown h

def listingText (files : List Drive.File) : Bytes :=
  if files.isEmpty then "No files found.\n"
  else text ["Files:\n", files.flatMap fun f => text [f.name, " (", f.id, ")\n"]]

def listingJson (files : List Drive.File) : Json :=
  .array (files.map fun f => record [("id", .ofText f.id), ("name", .ofText f.name)])

def ls (j : Job) (h : Host) : Except Error Unit × Host :=
  let pageSize := (j.values.integer? "page-size").getD defaultPageSize
  let shown (files : List Drive.File) (h : Host) : Host :=
    if j.json then printJson (listingJson files) h else h.print (listingText files)
  asking j (Drive.listFiles · pageSize) .drive shown h

structure Exported where
  fileId : Bytes
  mimeType : Bytes
  path : Bytes
  size : Nat
  deriving DecidableEq, Repr

def Exported.json (e : Exported) : Json :=
  record [("file_id", .ofText e.fileId), ("mime_type", .ofText e.mimeType),
    ("path", .ofText e.path), ("size", .ofInt e.size)]

/-- Notes a chunk: in the log, and as progress unless the user asked for quiet. -/
def noteChunk (j : Job) (p : Progress Binary64) (h : Host) : Host :=
  let total : Int := match p.total with
    | some n => n
    | none => -1
  let h := h.log .debug "chunk received"
    [("received", .integer p.received), ("total", .integer total), ("final", .flag p.final)]
  if j.quiet then h else h.display (.progress (progressLine j.terminal p.fraction p.final))

def exportDocument (j : Job) (client : Drive.Client Auth.Error) (fileId mimeType dest : Bytes)
    (h : Host) : Except Error Exported × Host :=
  let h := h.log .info "export started"
    [("file_id", .text fileId), ("mime_type", .text mimeType), ("dest", .text dest)]
  match Download.run .binary64 (Drive.chunks client fileId mimeType) (noteChunk j) h.entropy.digits
    dest j.resolved.chunkSize h with
  | (.error e, h) => (.error (.exporting fileId e), h)
  | (.ok r, h) =>
    (.ok ⟨fileId, mimeType, r.path, r.size⟩, h.log .info "export written"
      [("path", .text r.path), ("bytes", .integer r.size)])

def reportExport (j : Job) (e : Exported) (h : Host) : Host :=
  if j.json then printJson e.json h
  else tell j (text ["Exported ", e.fileId, " to ", e.path, " (", Size.format e.size, ")\n"]) h

/-- Where a document is exported to: the operand, or a name made from the document's title. -/
def destination (j : Job) (client : Drive.Client Auth.Error) (h : Host) :
    Except Error Bytes × Host :=
  let e := j.settings.exporting
  if 1 < j.operands.length then (.ok e.output, h)
  else
    match Drive.getFile client e.fileId h with
    | (.error e, h) => (.error (.drive e), h)
    | (.ok file, h) =>
      let dest := FileName.default file.name e.mimeType
      (.ok dest, h.log .debug "derived destination from document name"
        [("name", .text file.name), ("dest", .text dest)])

/-- Exports the document that the operands name. -/
def exportOne (j : Job) (h : Host) : Except Error Unit × Host :=
  match signIn j h with
  | (.error e, h) => (.error e, h)
  | (.ok client, h) =>
    match destination j client h with
    | (.error e, h) => (.error e, h)
    | (.ok dest, h) =>
      let e := j.settings.exporting
      match exportDocument j client e.fileId e.mimeType dest h with
      | (.error e, h) => (.error e, h)
      | (.ok done, h) => (.ok (), reportExport j done h)

/-- Lists files and exports the configured document. -/
def grab (j : Job) (h : Host) : Except Error Unit × Host :=
  let e := j.settings.exporting
  if e.fileId = [] then (.error .noDocument, h)
  else
    match signIn j h with
    | (.error e, h) => (.error e, h)
    | (.ok client, h) =>
      match Drive.listFiles client defaultPageSize h with
      | (.error e, h) => (.error (.drive e), h)
      | (.ok files, h) =>
        let h := if j.json then h else h.print (listingText files)
        match exportDocument j client e.fileId e.mimeType e.output h with
        | (.error e, h) => (.error e, h)
        | (.ok done, h) =>
          (.ok (), if j.json then
              printJson (record [("files", listingJson files), ("export", done.json)]) h
            else reportExport j done h)

/-- The published document's URL: the operand, the flag's key, the settings' URL or key. -/
def publishedUrl (j : Job) : Except Error Bytes :=
  let f := j.settings.fetch
  let key := j.values.text "key"
  match j.operands with
  | url :: _ => .ok url
  | [] =>
    if key ≠ [] then .ok (Published.url key)
    else if f.url ≠ [] then .ok f.url
    else if f.key ≠ [] then .ok (Published.url f.key)
    else .error .noUrl

def recordsJson (records : List (List Bytes)) : Json :=
  if records.isEmpty then .null else .array (records.map fun r => textList (some r))

def fetch (j : Job) (h : Host) : Except Error Unit × Host :=
  match publishedUrl j with
  | .error e => (.error e, h)
  | .ok url =>
    match Published.fetch url (userAgent (some j.resolved)) h with
    | (.error e, h) => (.error (.fetch e), h)
    | (.ok body, h) =>
      if !j.values.isOn "table" && !j.json then (.ok (), h.print body)
      else
        match Published.records body with
        | .error e => (.error (.fetch e), h)
        | .ok records =>
          (.ok (), if j.json then
              printJson (record [("url", .ofText url), ("records", recordsJson records)]) h
            else h.print (Table.print [] records))

/-- Shows the help of the command that the operands name. -/
def helpOn (j : Job) (h : Host) : Except Error Unit × Host :=
  match Command.find j.operands with
  | .ok (c, _) => (.ok (), h.print (help c))
  | .error _ => (.ok (), h.display (.usage (unknownTopic j.operands)))

def perform (c : Command) (j : Job) (h : Host) : Except Error Unit × Host :=
  match c with
  | .exporting => exportOne j h
  | .fetch => fetch j h
  | .grab => grab j h
  | .help => helpOn j h
  | .login => login j h
  | .logout => logout j h
  | .ls => ls j h
  | .whoami => whoami j h
  | .root | .completion | .shell _ => (.ok (), h.print (help c))

/-- What a command line says about settings. -/
def overrides (c : Command) (a : Arguments) : Config.Overrides :=
  let operand (i : Nat) : Bytes := if c = .exporting then a.operands.getD i [] else []
  { configPath := a.values.text "config"
    mimeType := a.values.text "mime-type"
    fileId := operand 0
    output := operand 1 }

/-- Runs a command with its arguments. Help and version win over everything but a refused flag. -/
def runCommand (s : Surroundings) (c : Command) (a : Arguments) (h : Host) :
    Except Error Unit × Host :=
  if a.values.isOn "help" then (.ok (), h.print (help c))
  else if a.values.isOn "version" then
    (.ok (), h.print (text [Config.appName, " version ", version, "\n"]))
  else if !c.details.runs then (.ok (), h.print (help c))
  else
    match c.check a.operands with
    | .error e => (.error (.usage e), h)
    | .ok _ =>
      -- Every command needs settings that pass their checks, help and version apart.
      match Config.resolve h.tree s.environment (overrides c a) with
      | .error e => (.error (.config e), h)
      | .ok resolved =>
        let j : Job := ⟨a.values, a.operands, resolved, s.terminal⟩
        let (result, h) := perform c j h
        (result, h.logFrom j.logLevel)

def run (s : Surroundings) (args : List Bytes) (h : Host) : Except Error Unit × Host :=
  match Command.find args with
  | .error e => (.error (.usage e), h)
  | .ok (c, rest) =>
    match Arguments.read c.flags rest with
    | .error e => (.error (.usage (.flag e)), h)
    | .ok a => runCommand s c a h

/-- The configuration file that a run reads; empty when it reads none. -/
def configFile (s : Surroundings) (args : List Bytes) : Bytes :=
  match Command.find args with
  | .error _ => []
  | .ok (c, rest) =>
    match Arguments.read c.flags rest with
    | .error _ => []
    | .ok a => Config.chosenPath s.environment (overrides c a)

/-- The files with credentials that a run may use, given its configuration file. -/
def credentialFiles (s : Surroundings) (args : List Bytes) (t : Files.Tree) : List Bytes :=
  match Config.resolve t s.environment { configPath := configFile s args } with
  | .error _ => []
  | .ok r => [r.settings.auth.tokenFile, r.settings.auth.clientSecretFile]

/-- What a run leaves behind for its caller. -/
structure Outcome where
  exitCode : Nat
  output : Bytes
  /-- What was printed beside the results. -/
  messages : Bytes

def shown : ConsoleItem → Bytes
  | .log e => e.line
  | .prompt s | .status s | .progress s | .usage s => s

def outcome (result : Except Error Unit × Host) : Outcome :=
  let (r, h) := result
  let messages := h.console.reverse.flatMap shown
  match r with
  | .ok _ => ⟨0, h.output, messages⟩
  | .error e => ⟨1, h.output, text [messages, "Error: ", Failure.message e, "\n"]⟩

end DocPull.Cli
