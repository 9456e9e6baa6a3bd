import FluentRecords.Digest.Sha256
import FluentRecords.Splice
import FluentRecords.Text.Path

/-!
Generated files: a header of comments and the transformed source. The header names the source and holds
a digest of it and of the settings, by which a later run tells whether the file is out of date.
-/

namespace FluentRecords

namespace GeneratedFile

/-- The version of the generator. -/
def generatorVersion : Text :=
  "0.1.0"

/-- The version of the format of generated files. -/
def formatVersion : Text :=
  "1"

/-- The bytes of a text without surrogates. -/
def bytes (t : Text) : List UInt8 :=
  t.flatMap Text.encodeOne

/-- The bytes of which the digest is taken: both versions, the settings and the source, with a zero
byte after each but the last. -/
def digestInput (settings : Settings) (source : List UInt8) : List UInt8 :=
  bytes generatorVersion ++ 0 :: bytes formatVersion ++ 0 :: bytes settings.json ++ 0 :: source

/-- The digest of a source under settings. -/
def digest (settings : Settings) (source : List UInt8) : Text :=
  Sha256.hexDigest (digestInput settings source)

/-- How the line of the digest begins. -/
def digestMark : Text :=
  "# digest: "

/-- The header of a generated file. -/
def header (label digest : Text) : Text :=
  "# record-builder generated\n# source: " ++ label ++ "\n# generator_version: " ++ generatorVersion
    ++ "\n# format_version: " ++ formatVersion ++ "\n" ++ digestMark ++ digest ++ "\n\n"

/-- A digit of a digest. -/
def isDigestDigit (c : CodePoint) : Bool :=
  (48 ≤ c && c ≤ 57) || (97 ≤ c && c ≤ 102)

/-- The digest that a line states. -/
def lineDigest? (line : Text) : Option Text :=
  let rest := line.drop digestMark.length
  if Text.startsWith digestMark line && rest.length == 64 && rest.all isDigestDigit then some rest
  else none

/-- The first digest that a text states on a line of its own. -/
def digest? (t : Text) : Option Text :=
  (Text.splitLines t).findSome? lineDigest?

/-- Why a file is not generated. -/
inductive Failure
  | rejected (diagnostics : List Diagnostic)
  | breakdown (b : Breakdown)

/-- The report about rejected diagnostics: the first of them. -/
def rejectionMessage (diagnostics : List Diagnostic) : Text :=
  match diagnostics with
  | d :: _ => d.render none
  | [] => "unknown error"

/-- The text of the file generated for a source at a path. -/
def render (here : Directory) (path : FilePath) (settings : Settings) (source : Text) :
    Except Failure Text := do
  let t ← (transform settings source).mapError .breakdown
  match t.source with
  | none => .error (.rejected t.diagnostics)
  | some body => .ok (header (path.label here) (digest settings (bytes source)) ++ body)

end GeneratedFile

end FluentRecords
