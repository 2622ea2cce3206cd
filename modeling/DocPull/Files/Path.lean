import DocPull.Bytes

/-!
# Path names

Names are cleaned and taken apart as texts, without looking at any directory: empty and dot
components vanish, and two dots remove the component before them.
-/
namespace DocPull.Path

/-- The components of a name, between slashes. -/
def components (path : Bytes) : List Bytes := Bytes.split (byte '/') path

/-- The components that stay, the last one first. Above the root two dots vanish; above a
relative start they stay. -/
def cleanComponents (rooted : Bool) : (kept : List Bytes) → List Bytes → List Bytes
  | kept, [] => kept
  | kept, c :: rest =>
    if c = [] ∨ c = utf8 "." then cleanComponents rooted kept rest
    else if c = utf8 ".." then
      match kept with
      | [] => cleanComponents rooted (if rooted then [] else [c]) rest
      | k :: ks =>
        if k = utf8 ".." then cleanComponents rooted (c :: k :: ks) rest
        else cleanComponents rooted ks rest
    else cleanComponents rooted (c :: kept) rest

/-- The shortest name that means the same. -/
def clean (path : Bytes) : Bytes :=
  let rooted := path.head? == some (byte '/')
  let body := Bytes.join "/" (cleanComponents rooted [] (components path)).reverse
  if rooted then byte '/' :: body else if body = [] then "." else body

/-- Names joined by slashes, cleaned; empty names at the front do not count. -/
def join (names : List Bytes) : Bytes :=
  match names.dropWhile List.isEmpty with
  | [] => []
  | ns => clean (Bytes.join "/" ns)

def dir (path : Bytes) : Bytes :=
  match Bytes.cutLast (byte '/') path with
  | some (before, _) => clean (before ++ [byte '/'])
  | none => "."

/-- The last component of a name. -/
def base (path : Bytes) : Bytes :=
  if path = [] then "."
  else
    let trimmed := Bytes.trimEnd (byte '/') path
    if trimmed = [] then "/"
    else
      match Bytes.cutLast (byte '/') trimmed with
      | some (_, last) => last
      | none => trimmed

/-- The part of the last component from its last dot on. -/
def extension (path : Bytes) : Bytes :=
  let last := match Bytes.cutLast (byte '/') path with
    | some (_, last) => last
    | none => path
  match Bytes.cutLast (byte '.') last with
  | some (_, ext) => byte '.' :: ext
  | none => []

def inside (dir name : Bytes) : Bytes :=
  if Bytes.endsWith dir "/" then dir ++ name else text [dir, "/", name]

end DocPull.Path
