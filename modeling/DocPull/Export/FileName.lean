import DocPull.Files.Path
import DocPull.Text.Blank
import DocPull.Text.Fold
import DocPull.Text.Normal

/-!
# File names for documents

A document's title becomes a plain file name: separators are replaced, control characters
dropped, and the extension of the exported format added when it is missing.
-/
namespace DocPull.FileName

/-- The extensions of the formats that documents are exported in. -/
def extensions : List (String × String) :=
  [("application/vnd.openxmlformats-officedocument.wordprocessingml.document", ".docx"),
    ("application/vnd.openxmlformats-officedocument.spreadsheetml.sheet", ".xlsx"),
    ("application/vnd.openxmlformats-officedocument.presentationml.presentation", ".pptx"),
    ("application/vnd.oasis.opendocument.text", ".odt"),
    ("application/vnd.oasis.opendocument.spreadsheet", ".ods"),
    ("application/pdf", ".pdf"),
    ("application/rtf", ".rtf"),
    ("application/epub+zip", ".epub"),
    ("text/plain", ".txt"),
    ("text/html", ".html"),
    ("text/csv", ".csv"),
    ("text/markdown", ".md")]

/-- The extension of a format; empty when the format is not known. -/
def extension (mimeType : Bytes) : Bytes :=
  match extensions.find? fun e => utf8 e.1 == mimeType with
  | some (_, ext) => ext
  | none => []

/-- One unit of a title in a file name. -/
def sanitizeUnit (u : TextUnit) : Bytes :=
  let c := u.shown
  if c = '/' ∨ c = '\\' then "_"
  -- The title is normalized by now, so neighbours of what is dropped are not composed.
  else if c.toNat < 0x20 ∨ c.toNat = 0x7F then []
  else String.utf8EncodeChar c

/-- A title without separators, control characters and stray bytes. -/
def sanitize (title : Bytes) : Bytes := (TextUnit.read title).flatMap sanitizeUnit

/-- A name that can be given to a file in place of an unusable one. -/
def usable (name : Bytes) : Bytes :=
  if name = [] ∨ name = utf8 "." ∨ name = utf8 ".." then "out" else name

/-- A name with an extension, which is added unless the name ends in it in any case. -/
def withExtension (name ext : Bytes) : Bytes :=
  if ext = [] ∨ Fold.same (Path.extension name) ext then name else name ++ ext

/-- The file name for a document, under a given normalization of its title. -/
def ofTitle (normalize : Bytes → Bytes) (title mimeType : Bytes) : Bytes :=
  withExtension (usable (sanitize (normalize (Blank.trim title)))) (extension mimeType)

/-- The file name for a document, with its title in composed form. -/
def default (title mimeType : Bytes) : Bytes := ofTitle Normal.compositeForm title mimeType

end DocPull.FileName
