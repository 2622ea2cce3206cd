import DocPull.Drive.FileShape
import DocPull.Json.Reader

/-!
# Answers of the Drive service

The shapes of the service's answers, and the few members of them that the program reads.
-/
namespace DocPull.Drive

open Json (Shape)

def listShape : Shape :=
  .record (fieldsOf .text ["kind", "nextPageToken"] ++ fieldsOf .flag ["incompleteSearch"] ++
    fieldsOf (.list fileShape) ["files"])

def aboutShape : Shape :=
  let theme : Shape := .record (fieldsOf .text ["backgroundImageLink", "colorRgb", "id"])
  .record (fieldsOf .text ["kind"] ++
    fieldsOf .flag ["appInstalled", "canCreateDrives", "canCreateTeamDrives"] ++
    fieldsOf .quotedInteger ["maxUploadSize"] ++
    fieldsOf (.list .text) ["folderColorPalette"] ++
    fieldsOf (.list theme) ["driveThemes", "teamDriveThemes"] ++
    fieldsOf (.dict (.list .text)) ["exportFormats", "importFormats"] ++
    fieldsOf (.dict .text) ["maxImportSizes"] ++
    [("storageQuota", .record (fieldsOf .quotedInteger
      ["limit", "usage", "usageInDrive", "usageInDriveTrash"])), ("user", userShape)])

def errorShape : Shape :=
  .record [("error", .record [("code", .integer), ("message", .text), ("details", .list .any),
    ("body", .text), ("header", .dict (.list .text)),
    ("errors", .list (.record (fieldsOf .text ["reason", "message"])))])]

structure File where
  id : Bytes
  name : Bytes
  deriving DecidableEq, Repr

structure User where
  displayName : Bytes
  email : Bytes
  deriving DecidableEq, Repr

/-- A page of a listing. -/
structure Listing where
  files : Json.Slots File
  nextPage : Bytes

/-- What the service says about a failure. -/
structure Complaint where
  code : Int
  message : Bytes
  reasons : Json.Slots Bytes

def textField {α : Type} (get : α → Bytes) (set : α → Bytes → α) (a : α) (j : Json) : Option α :=
  (j.toText (get a)).map (set a)

def readFile (old : File) : Json → Option File :=
  Json.toRecord
    [("id", textField File.id fun f v => { f with id := v }),
      ("name", textField File.name fun f v => { f with name := v })] old

/-- Reads a listed file over the one in its place; a null clears it. -/
def readListed (old : Option File) : Json → Option File
  | .null => some ⟨[], []⟩
  | j => readFile (old.getD ⟨[], []⟩) j

def readListing (j : Json) : Option Listing :=
  if j.fits listShape then
    let files (l : Listing) (j : Json) : Option Listing :=
      (Json.toList readListed (some l.files) j).map fun fs => { l with files := fs.getD .empty }
    Json.toRecord
      [("files", files),
        ("nextPageToken", textField Listing.nextPage fun l v => { l with nextPage := v })]
      ⟨.empty, []⟩ j
  else none

def readSingle (j : Json) : Option File := if j.fits fileShape then readFile ⟨[], []⟩ j else none

def readUser (old : User) : Json → Option User :=
  Json.toRecord
    [("displayName", textField User.displayName fun u v => { u with displayName := v }),
      ("emailAddress", textField User.email fun u v => { u with email := v })] old

/-- Reads the user out of what the service says about them. -/
def readAbout (j : Json) : Option User :=
  if j.fits aboutShape then
    let user (old : Option User) (j : Json) : Option (Option User) :=
      Json.toOptional ⟨[], []⟩ readUser old j
    (Json.toRecord [("user", user)] none j).map fun u => u.getD ⟨[], []⟩
  else none

/-- Reads what the service says about a failure; nothing when there is no error to read. -/
def readComplaint (j : Json) : Option Complaint :=
  if j.fits errorShape then
    let reason (old : Option Bytes) (j : Json) : Option Bytes :=
      Json.toRecord [("reason", fun old j => Json.toText old j)] (old.getD []) j
    let complaint (old : Complaint) (j : Json) : Option Complaint :=
      Json.toRecord
        [("code", fun c j => (j.toInteger c.code).map fun v => { c with code := v }),
          ("message", textField Complaint.message fun c v => { c with message := v }),
          ("errors", fun c j => (Json.toList reason (some c.reasons) j).map fun rs =>
            { c with reasons := rs.getD .empty })] old j
    let error (old : Option Complaint) (j : Json) : Option (Option Complaint) :=
      Json.toOptional ⟨0, [], .empty⟩ complaint old j
    (Json.toRecord [("error", error)] none j).join
  else none

/-- What an error body says: an error, or, when the body begins with a bracket, a list whose first
item is one. -/
def complaint? (body : Bytes) : Option Complaint :=
  match Json.parse? body with
  | some (.array (j :: js)) =>
    if body.head? = some (byte '[') ∧ js.all (·.fits errorShape) then readComplaint j else none
  | some j => readComplaint j
  | none => none

end DocPull.Drive
