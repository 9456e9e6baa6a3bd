import FluentRecords.Text.Path
import FluentRecords.Text.Utf8

/-!
Trees of files. Paths are looked up piece by piece from a directory, so that a path through something
that is missing or is no directory leads nowhere, even when `..` would cancel that piece.
-/

namespace FluentRecords

/-- What stands at a place in a tree. -/
inductive FileEntry
  | file (bytes : List UInt8)
  | directory
deriving DecidableEq

/-- Why something cannot be done with a path. -/
inductive FileError
  | missing
  | present
  | notDirectory
  | isDirectory
deriving DecidableEq

/-- The number and the wording of an error. -/
def FileError.text : FileError → Text
  | missing => "[Errno 2] No such file or directory"
  | present => "[Errno 17] File exists"
  | notDirectory => "[Errno 20] Not a directory"
  | isDirectory => "[Errno 21] Is a directory"

/-- An error and the path it is about. -/
structure FileFault where
  error : FileError
  path : Text
deriving DecidableEq

/-- How a fault is reported. -/
def FileFault.message (f : FileFault) : Text :=
  f.error.text ++ ": " ++ Text.quote f.path

/-- A tree: what stands at the places below the root, which is a directory itself. -/
structure FileTree where
  entries : List (Directory × FileEntry)

namespace FileTree

/-- What stands at a place. -/
def get? (t : FileTree) (place : Directory) : Option FileEntry :=
  if place.isEmpty then some .directory else (t.entries.find? (·.1 == place)).map (·.2)

/-- Puts an entry at a place. -/
def put (t : FileTree) (place : Directory) (e : FileEntry) : FileTree :=
  ⟨t.entries.filter (·.1 != place) ++ [(place, e)]⟩

/-- Takes away what stands at a place and below it. -/
def remove (t : FileTree) (place : Directory) : FileTree :=
  ⟨t.entries.filter fun e => !place.isPrefixOf e.1⟩

/-- One piece further from a place, which has to be a directory. -/
def step (t : FileTree) (place : Directory) (piece : Text) : Except FileError Directory :=
  match t.get? place with
  | none => .error .missing
  | some (.file _) => .error .notDirectory
  | some .directory =>
    .ok (if FilePath.isSilent piece then place
      else if piece == [46, 46] then place.dropLast
      else place ++ [piece])

/-- The place that a path names, seen from a directory. Nothing need stand there. -/
def locate (t : FileTree) (here : Directory) (path : Text) : Except FileError Directory :=
  if path.isEmpty then .error .missing
  else (FilePath.pieces path).foldlM t.step (if path.head? == some 47 then [] else here)

/-- What stands at the end of a path. -/
def find (t : FileTree) (here : Directory) (path : Text) : Except FileError FileEntry := do
  let place ← t.locate here path
  match t.get? place with
  | some e => .ok e
  | none => .error .missing

/-- Whether a path leads to something. -/
def holds (t : FileTree) (here : Directory) (path : Text) : Bool :=
  (t.find here path).isOk

/-- Whether a path leads to a directory. -/
def isDirectory (t : FileTree) (here : Directory) (path : Text) : Bool :=
  match t.find here path with
  | .ok .directory => true
  | _ => false

/-- The bytes of the file at a path. -/
def read (t : FileTree) (here : Directory) (path : Text) : Except FileFault (List UInt8) :=
  match t.find here path with
  | .ok (.file bytes) => .ok bytes
  | .ok .directory => .error ⟨.isDirectory, path⟩
  | .error e => .error ⟨e, path⟩

/-- Writes a file, in place of one that is there. -/
def write (t : FileTree) (here : Directory) (path : Text) (bytes : List UInt8) :
    Except FileFault FileTree :=
  match t.locate here path with
  | .error e => .error ⟨e, path⟩
  | .ok place =>
    if t.get? place = some .directory then .error ⟨.isDirectory, path⟩
    else .ok (t.put place (.file bytes))

/-- Makes one directory, in a directory that is there. -/
def makeDirectory (t : FileTree) (here : Directory) (path : Text) : Except FileFault FileTree :=
  match t.locate here path with
  | .error e => .error ⟨e, path⟩
  | .ok place =>
    if (t.get? place).isSome then .error ⟨.present, path⟩ else .ok (t.put place .directory)

/-- Makes a directory unless it is there. -/
def ensureDirectory (t : FileTree) (here : Directory) (path : Text) : Except FileFault FileTree :=
  match t.makeDirectory here path with
  | .ok t => .ok t
  | .error f => if f.error ≠ .missing && t.isDirectory here path then .ok t else .error f

/-- Makes a directory and those above it that are missing. `names` is the path from its last name up.
What is made before a fault stays. -/
def ensureAll (here : Directory) (root : Text) (t : FileTree) :
    (names : List Text) → FileTree × Option FileFault
  | [] => settle (t.ensureDirectory here (FilePath.mk root []).text) t
  | n :: above =>
    let path := (FilePath.mk root (n :: above).reverse).text
    match t.ensureDirectory here path with
    | .ok t => (t, none)
    | .error f =>
      if f.error ≠ .missing then (t, some f)
      else
        match ensureAll here root t above with
        | (t, some f) => (t, some f)
        | (t, none) => settle (t.ensureDirectory here path) t
where
  settle (made : Except FileFault FileTree) (t : FileTree) : FileTree × Option FileFault :=
    match made with
    | .ok t => (t, none)
    | .error f => (t, some f)

/-- Makes the directory of a path and those above it that are missing. -/
def ensureDirectories (t : FileTree) (here : Directory) (path : FilePath) :
    FileTree × Option FileFault :=
  ensureAll here path.root t path.names.reverse

/-- What a later tree has below a directory that this one has not, by the names that lead there. -/
def changes (before after : FileTree) (here : Directory) : List (Directory × FileEntry) :=
  (after.entries.filter fun e => here.isPrefixOf e.1 && before.get? e.1 != some e.2).map
    fun e => (e.1.drop here.length, e.2)

end FileTree

/-- Why a file has no text. -/
inductive ReadFault
  | file (f : FileFault)
  | encoding (f : Text.DecodeFault)

/-- How it is reported. -/
def ReadFault.message : ReadFault → Text
  | file f => f.message
  | encoding f => f.message

/-- The text of the file at a path. -/
def FileTree.readText (t : FileTree) (here : Directory) (path : Text) : Except ReadFault Text := do
  let bytes ← (t.read here path).mapError .file
  let text ← (Text.decode bytes).mapError .encoding
  .ok text.lineFeeds

end FluentRecords
