import DocPull.Drive.Error
import DocPull.Drive.Shapes
import DocPull.Host
import DocPull.Url.Template

/-!
# Calls of the Drive service

Each call is one request below the service's base URL. Its answer is an error status, an empty
answer, or a document of the promised shape.
-/
namespace DocPull.Drive

/-- A client of the service, with the way it sends requests. -/
structure Client (ρ : Type) where
  /-- The base URL, with a slash at its end. -/
  base : Bytes
  userAgent : Bytes
  send : Http.Transport Host ρ

def defaultBase : Bytes := "https://www.googleapis.com/drive/v3/"

def defaultHost : Bytes := "www.googleapis.com"

/-- The base URL for a configured endpoint: the default without one, the endpoint when it has a
scheme, and else the default with its host replaced. -/
def baseFor (endpoint : Bytes) : Bytes :=
  if endpoint = [] then defaultBase
  else
    let closed := if Bytes.endsWith endpoint "/" then endpoint else endpoint ++ utf8 "/"
    if Bytes.holds closed "://" then closed
    else Bytes.replaceFirst defaultBase defaultHost closed

def noTransportMessage : Bytes := "drive: an authorized HTTP client is required"

def Client.new {ρ : Type} (endpoint userAgent : Bytes) (send : Http.Transport Host ρ) : Client ρ :=
  ⟨baseFor endpoint, userAgent, send⟩

/-- A page of the service: its path below the base, where a document's id may stand in for a
placeholder, and its parameters. -/
structure Page where
  path : Bytes
  fileId : Option Bytes
  params : Query.Params

/-- Every occurrence of a text replaced by another. The text gets shorter with each step. -/
def replaceAll (old new : Bytes) : (fuel : Nat) → Bytes → Bytes
  | 0, s => s
  | _, [] => []
  | fuel + 1, b :: rest =>
    match Bytes.after? old (b :: rest) with
    | some tail => new ++ replaceAll old new fuel tail
    | none => b :: replaceAll old new fuel rest

/-- Placeholders are kept readable in a URL. -/
def readable (s : Bytes) : Bytes :=
  let s := replaceAll "%7B" "\x7b" s.length s
  let s := replaceAll "%7D" "\x7d" s.length s
  replaceAll "%2A" "*" s.length s

/-- The URL of a page below a base; empty when the base cannot be read. -/
def below (base path : Bytes) : Bytes :=
  match Url.parse base, Url.parse path with
  | .ok b, .ok p => readable (b.resolve p).toText
  | _, _ => []

/-- The name of the placeholder for a document's id. -/
def idName : Bytes := "fileId"

def placeholder : Bytes := text ["\x7b", idName, "\x7d"]

/-- A URL with a document's id filled in. A path that is no template stays as it is. -/
def fillIn (id : Bytes) (u : Url) : Url :=
  match (Url.unescape .path u.path).toOption.bind (Template.expand? [(idName, id)]) with
  | some e => { u with path := Url.shownAs .path e.meaning e.written }
  | none => u

/-- How the client names itself. -/
def agent (userAgent : Bytes) : Bytes :=
  if userAgent = [] then "google-api-go-client/0.5"
  else text ["google-api-go-client/0.5 ", userAgent]

def request {ρ : Type} (c : Client ρ) (p : Page) (range : Option Bytes) :
    Except Url.ParseError Http.Request :=
  (Url.parse (text [below c.base p.path, "?", Query.write p.params])).map fun u =>
    let u := u.withoutEmptyPort
    let u := match p.fileId with
      | some id => fillIn id u
      | none => u
    ⟨"GET", u, { range := range, userAgent := some (agent c.userAgent) }, none⟩

/-- Sends the request for a page. Canceled work is not blamed on the network. -/
def ask {ρ : Type} (c : Client ρ) (action : Bytes) (p : Page) (range : Option Bytes) (h : Host) :
    Except (Error ρ) Http.Reply × Host :=
  match request c p range with
  | .error e => (.error (.network action (.url e)), h)
  | .ok r =>
    match Http.run c.send r h with
    | (.error e, h) =>
      -- What the client says about its failure does not count, only whether work was canceled.
      (.error (if h.wire.canceled then .canceled action else .network action (.client e)), h)
    | (.ok reply, h) => (.ok reply, h)

/-- The error that an answer with an error status stands for. A body that says nothing readable
counts as empty. -/
def apiError (status : Nat) (body : Bytes) : ApiError :=
  let e : ApiError := match complaint? body with
    | some c => ⟨if c.code = 0 then status else c.code, c.reasons.items.headD [], c.message⟩
    | none => ⟨status, [], []⟩
  if e.message = [] then { e with message := Http.phrase e.status } else e

def isSuccess (status : Nat) : Bool := 200 ≤ status && status ≤ 299

/-- The error of an answer whose status is no success. -/
def complain (reply : Http.Reply) (h : Host) : ApiError × Host :=
  let result : Except (Http.Fault Empty) Bytes × Host := Http.readBody none reply h
  (apiError reply.status (result.1.toOption.getD []), result.2)

/-- Calls a page that answers with a document. An empty answer leaves everything empty. -/
def call {ρ α : Type} (c : Client ρ) (action : Bytes) (p : Page) (nothing : α)
    (read : Json → Option α) (h : Host) : Except (Error ρ) α × Host :=
  match ask c action p none h with
  | (.error e, h) => (.error e, h)
  | (.ok reply, h) =>
    -- This status is no success and is answered without looking at the body.
    if reply.status = 304 then (.error (.api action (apiError 304 [])), h)
    else if !isSuccess reply.status then
      let (e, h) := complain reply h
      (.error (.api action e), h)
    else if reply.status = 204 then (.ok nothing, h)
    else
      match Http.readBody none reply h with
      | (.error .canceled, h) => (.error (.canceled action), h)
      | (.error f, h) => (.error (.network action (.body f)), h)
      | (.ok body, h) =>
        match (Json.parse? body).bind read with
        | some a => (.ok a, h)
        | none => (.error (.network action .malformed), h)

/-- The parameters of every call. -/
def params (alt : String) (more : List (String × Bytes)) : Query.Params :=
  ([("alt", utf8 alt), ("prettyPrint", utf8 "false")] ++ more).map fun (n, v) => (utf8 n, v)

/-- The files that have both an id and a name, up to a number; each one that has not is logged. -/
def usableFiles : (room : Nat) → List File → Host → List File × Host
  | _, [], h => ([], h)
  | 0, _ :: _, h => ([], h)
  | room + 1, f :: fs, h =>
    if f.id = [] ∨ f.name = [] then
      let h := h.log .debug "skipping file without id or name" [("id", .text f.id)]
      usableFiles (room + 1) fs h
    else
      let (rest, h) := usableFiles room fs h
      (f :: rest, h)

/-- The first page of the user's files. -/
def listFiles {ρ : Type} (c : Client ρ) (pageSize : Int) (h : Host) :
    Except (Error ρ) (List File) × Host :=
  if pageSize ≤ 0 then (.error (.pageSize pageSize), h)
  else
    let h := h.log .debug "listing files" [("page_size", .integer pageSize)]
    let page : Page := ⟨"files", none, params "json"
      [("pageSize", Bytes.signed pageSize), ("fields", "nextPageToken, files(id, name)")]⟩
    match call c "listing files" page ⟨.empty, []⟩ readListing h with
    | (.error e, h) => (.error e, h)
    | (.ok l, h) =>
      let (files, h) := usableFiles pageSize.toNat l.files.items h
      (.ok files, h.log .debug "listed files"
        [("count", .integer files.length), ("more", .flag (!l.nextPage.isEmpty))])

def getFile {ρ : Type} (c : Client ρ) (fileId : Bytes) (h : Host) : Except (Error ρ) File × Host :=
  let page : Page := ⟨text ["files/", placeholder], some fileId,
    params "json" [("fields", "id, name")]⟩
  call c (text ["getting file ", fileId]) page ⟨[], []⟩ readSingle h

/-- The user that the credentials belong to. -/
def about {ρ : Type} (c : Client ρ) (h : Host) : Except (Error ρ) User × Host :=
  let page : Page := ⟨"about", none,
    params "json" [("fields", "user(displayName, emailAddress)")]⟩
  call c "fetching user" page ⟨[], []⟩ readAbout h

end DocPull.Drive
