import FluentRecords.Text.Basic

/-!
Paths of files: names between slashes. Empty names and `.` say nothing and are dropped; `..` is kept
until a path is resolved, where it cancels the name before it.
-/

namespace FluentRecords

/-- A directory, given by the names that lead to it from the root. -/
abbrev Directory := List Text

/-- A path. `root` holds the slashes it begins with, none for a relative path. -/
structure FilePath where
  root : Text
  names : List Text
deriving DecidableEq

namespace FilePath

/-- The pieces between slashes. -/
def pieces : Text → List Text
  | [] => [[]]
  | c :: rest =>
    match pieces rest with
    | [] => [[c]]
    | p :: ps => if c = 47 then [] :: p :: ps else (c :: p) :: ps

/-- Whether a piece between slashes says nothing. -/
def isSilent (piece : Text) : Bool :=
  piece.isEmpty || piece == [46]

/-- The path that a text spells. Exactly two slashes at the start are kept, more count as one. -/
def ofText (t : Text) : FilePath where
  root :=
    match (t.takeWhile (· == 47)).length with
    | 0 => []
    | 2 => [47, 47]
    | _ => [47]
  names := (pieces t).filter (!isSilent ·)

/-- The text of a path. -/
def text (p : FilePath) : Text :=
  if p.root.isEmpty && p.names.isEmpty then [46] else p.root ++ Text.join [47] p.names

/-- Whether the path begins at the root. -/
def isAbsolute (p : FilePath) : Bool :=
  !p.root.isEmpty

/-- The path without its last name. -/
def parent (p : FilePath) : FilePath :=
  { p with names := p.names.dropLast }

/-- Goes on from a directory; `..` leads back. -/
def descend (d : Directory) : List Text → Directory
  | [] => d
  | n :: rest => if n = [46, 46] then descend d.dropLast rest else descend (d ++ [n]) rest

/-- The names that lead from the root to a path, seen from a directory. -/
def resolve (here : Directory) (p : FilePath) : List Text :=
  if p.isAbsolute then descend [] p.names else descend here p.names

/-- The text of names that lead from the root. -/
def absoluteText (names : List Text) : Text :=
  47 :: Text.join [47] names

/-- What a path is called seen from a directory: below it by the names that lead there, elsewhere by
those that lead from the root. -/
def label (here : Directory) (p : FilePath) : Text :=
  let names := p.resolve here
  if here.isPrefixOf names then (FilePath.mk [] (names.drop here.length)).text
  else absoluteText names

end FilePath

end FluentRecords
