import DocPull.Drive.Client
import DocPull.Text.Blank

/-!
# Exporting ranges of a document

A partial answer carries the range asked for and, in its content range, the length of the whole.
Any other success is the whole document. A range that starts behind the end of a document whose
beginning was already received is an empty last chunk.
-/
namespace DocPull.Drive

/-- The total length that a content range states; nothing when the header is missing or leaves it
open. A header that says nothing readable is refused. -/
def parseContentRange (header : Bytes) : Option (Option Nat) :=
  if header = [] then some none
  else do
    let (unit, spec) ← Bytes.cut (byte ' ') (Blank.trim header)
    guard (unit == utf8 "bytes")
    let (_, total) ← Bytes.cut (byte '/') spec
    if total = utf8 "*" then pure none
    else do
      let n ← (Numeral.integer total).toOption
      guard (0 ≤ n)
      pure (some n.toNat)

/-- The header that asks for the bytes from the first to the last position. -/
def rangeHeader (first last : Int) : Bytes :=
  text ["bytes=", Bytes.signed first, "-", Bytes.signed last]

/-- The chunk that a successful answer carries. -/
def chunkOf {ρ : Type} (fileId : Bytes) (reply : Http.Reply) (body : Bytes) :
    Except (Error ρ) Chunk :=
  -- The document ends here, whatever was received or stated before.
  if reply.status ≠ 206 then .ok ⟨body, some body.length, true⟩
  else
    let header := reply.header "Content-Range"
    match parseContentRange header with
    | some total => .ok ⟨body, total, false⟩
    | none => .error (.contentRange fileId header)

def exportPage (fileId mimeType : Bytes) : Page :=
  ⟨text ["files/", placeholder, "/export"], some fileId, params "media" [("mimeType", mimeType)]⟩

/-- What is done when a document is exported, for messages. -/
def exporting (fileId : Bytes) : Bytes := text ["exporting ", fileId]

def askRange {ρ : Type} (c : Client ρ) (fileId mimeType : Bytes) (first last : Int) (h : Host) :
    Except (Error ρ) Http.Reply × Host :=
  let h := h.log .debug "exporting range"
    [("file_id", .text fileId), ("mime_type", .text mimeType), ("start", .integer first),
      ("end", .integer last)]
  ask c (exporting fileId) (exportPage fileId mimeType) (some (rangeHeader first last)) h

/-- Reads the answer to a request for a range that starts at a position. -/
def readChunk {ρ : Type} (fileId : Bytes) (first : Int) (reply : Http.Reply) (h : Host) :
    Except (Error ρ) Chunk × Host :=
  if !isSuccess reply.status then
    let (e, h) := complain reply h
    -- The code is the one that the body states, and the status of the answer only without one.
    if 0 < first ∧ e.status = 416 then (.ok ⟨[], some first.toNat, false⟩, h)
    else (.error (.api (exporting fileId) e), h)
  else
    let reading := text ["reading export body of ", fileId]
    match Http.readBody none reply h with
    | (.error f, h) =>
      (.error (if h.wire.canceled then .canceled reading else .network reading (.body f)), h)
    | (.ok body, h) => (chunkOf fileId reply body, h)

def exportRange {ρ : Type} (c : Client ρ) (fileId mimeType : Bytes) (first last : Int) (h : Host) :
    Except (Error ρ) Chunk × Host :=
  match askRange c fileId mimeType first last h with
  | (.error e, h) => (.error e, h)
  | (.ok reply, h) => readChunk fileId first reply h

/-- The chunks of a document in a format. Every chunk takes an answer from the network. -/
def chunks {ρ : Type} (c : Client ρ) (fileId mimeType : Bytes) : ChunkSource Host (Error ρ) where
  fetch := exportRange c fileId mimeType
  left h := h.wire.answers.length

end DocPull.Drive
