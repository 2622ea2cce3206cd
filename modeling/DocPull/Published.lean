import DocPull.Csv
import DocPull.Host

/-!
# Published documents

A published document is fetched anonymously: one request, whose only acceptable answer is success.
What is fetched is a table, whose records may differ in length.
-/
namespace DocPull.Published

/-- Why a published document could not be fetched. -/
inductive Error where
  | badUrl (e : Url.ParseError)
  | canceled
  | network (url : Bytes) (e : Http.ClientError Empty)
  | status (code : Nat) (url body : Bytes)
  | body (url : Bytes) (f : Http.Fault Empty)
  | table (e : Csv.Error)
  deriving DecidableEq, Repr

instance : Failure Error where
  message
    | .badUrl e => text ["fetch: creating request: ", e.message]
    | .canceled => text ["fetch: request canceled: ", Http.canceledMessage]
    | .network url e => text ["fetch: network error: GET ", url, ": ", Failure.message e]
    | .status code url _ => text ["fetch: GET ", url, ": HTTP ", Bytes.decimal code]
    | .body url f =>
      text ["fetch: network error: reading body of ", url, ": ", Failure.message f]
    | .table e => text ["fetch: parsing CSV: ", e.message]
  isA
    | .badUrl _, _ => false
    | .canceled, k => k == .canceled
    | .network _ e, k => k == .fetchNetwork || Failure.isA e k
    | .status _ _ _, k => k == .httpError || k == .unexpectedStatus
    | .body _ f, k => k == .fetchNetwork || Failure.isA f k
    | .table _, _ => false

/-- How much of a failed answer is kept. -/
def maxErrorBody : Nat := 4096

def request (url : Url) (userAgent : Bytes) : Http.Request :=
  let agent := if userAgent = [] then none else some userAgent
  ⟨"GET", url.withoutEmptyPort, { userAgent := agent }, none⟩

def fetch (url userAgent : Bytes) (h : Host) : Except Error Bytes × Host :=
  match Url.parse url with
  | .error e => (.error (.badUrl e), h)
  | .ok u =>
    let h := h.log .debug "fetching published document" [("url", .text url)]
    match Http.run (Http.plain true) (request u userAgent) h with
    | (.error e, h) => (.error (if h.wire.canceled then .canceled else .network url e), h)
    | (.ok reply, h) =>
      if reply.status ≠ 200 then
        let h := Http.discard maxErrorBody reply h
        (.error (.status reply.status url (reply.body.take maxErrorBody)), h)
      else
        match Http.readBody none reply h with
        | (.error f, h) => (.error (.body url f), h)
        | (.ok body, h) =>
          (.ok body, h.log .debug "fetched published document"
            [("status", .integer reply.status), ("bytes", .integer body.length)])

/-- How a published table is read: quotes may stand anywhere, and records may differ in length. -/
def tableRules : Csv.Rules := ⟨true, .any⟩

def records (body : Bytes) : Except Error (List (List Bytes)) :=
  (Csv.parse tableRules body).mapError .table

/-- The page that publishes documents. -/
def base : Bytes := "https://docs.google.com/doc"

/-- The URL under which the published document of a key is found as comma-separated values. -/
def url (key : Bytes) : Bytes :=
  text [base, "?", Query.write [("key", key), ("output", "csv")]]

end DocPull.Published
