import FluentRecords.CommandLine.Usage
import FluentRecords.Splice
import FluentRecords.Text.Json

/-!
The command that shows how the fields of records are classified, for readers or as JSON.
-/

namespace FluentRecords

namespace Inspect

/-- The options of the command. -/
inductive Key
  | json
  | help
deriving DecidableEq

/-- The options as the command line knows them. -/
def specs : List (OptionSpec Key) :=
  [⟨[Text.ofString "--json"], .json, false⟩, ⟨[Text.ofString "--help"], .help, false⟩]

/-- What is asked for. -/
structure Order where
  file : Text
  json : Bool

/-- Reads a command line. -/
def Order.read (tree : FileTree) (here : Directory) (words : List Text) : Except Stop Order := do
  let arguments ← (Arguments.read specs true none words).mapError
    fun f => .misused (.ofArguments .inspect f)
  if arguments.has .help then .error (.answered (Command.help .inspect))
  match arguments.others with
  | [] => .error (.misused ⟨some .inspect, "Missing argument 'FILE'."⟩)
  | file :: extra => do
    Command.checkFile .inspect tree here true "FILE" file
    Command.checkExtra .inspect extra
    .ok ⟨file, arguments.has .json⟩

/-- The type of a field without the optional wrapper. -/
def effective (f : Field) : Expr :=
  match f.classification with
  | some c => c.effective
  | none => f.declared

/-- The word for the kind of a field. -/
def kindText (f : Field) : Text :=
  match f.kind? with
  | some k => k.text
  | none => []

/-- The line about a field. -/
def fieldLine (f : Field) : Rendering := do
  let type ← (effective f).text
  .ok ("    " ++ f.name ++ ": " ++ type ++ " (" ++ kindText f ++ ")")

/-- Lines up to one that has no text. -/
def linesUntil : List Rendering → List Text × Option Breakdown
  | [] => ([], none)
  | .error f :: _ => ([], some (.unprintable f))
  | .ok line :: rest =>
    let (lines, b) := linesUntil rest
    (line :: lines, b)

/-- The lines about an expansion. -/
def expansionLines (e : Expansion) : List Rendering :=
  let title : Text := "Record: " ++ e.name.getD "None"
  match e.generated with
  | none => .ok title :: e.diagnostics.map fun d => .ok ("  ✗ " ++ d.render none)
  | some g =>
    .ok title :: .ok ("  Builder: " ++ g.builder.name) :: g.record.fields.map fieldLine

/-- A text or nothing. -/
def optional : Option Text → Json
  | some t => .str t
  | none => .null

/-- An object with the given members. -/
def object (members : List (String × Json)) : Json :=
  .obj (members.map fun m => (Text.ofString m.1, m.2))

/-- A field as JSON. -/
def fieldJson (f : Field) : Except PrintFault Json := do
  let declared ← f.declared.text
  let type ← (effective f).text
  .ok (object [("name", .str f.name), ("declared_type", .str declared),
    ("kind", .str (kindText f)), ("effective_type", .str type)])

/-- A diagnostic as JSON; columns count from one. -/
def diagnosticJson (d : Diagnostic) : Json :=
  object [("line", .int d.line), ("column", .int (d.column + 1)), ("message", .str d.message)]

/-- An expansion as JSON. -/
def expansionJson (e : Expansion) : Except PrintFault Json := do
  let fields ← match e.generated with
    | some g => g.record.fields.mapM fieldJson
    | none => .ok []
  .ok (object [("record", optional e.name),
    ("builder", optional (e.generated.map (·.builder.name))),
    ("fields", .arr fields), ("diagnostics", .arr (e.diagnostics.map diagnosticJson))])

/-- The expansions of the file that is asked for. -/
def expansions (tree : FileTree) (here : Directory) (file : Text) :
    Except Stop (List Expansion) := do
  let path := (FilePath.ofText file).text
  let source ← (tree.readText here path).mapError fun f => .failed f.message
  let m ← match Module.parse source with
    | .ok m => .ok m
    | .error f =>
      match f.asBreakdown with
      | .ok f => .error (.reported [(Diagnostic.ofFault f).render (some path)])
      | .error b => .error (.failed b.message)
  (m.expandAll .default).mapError fun b => .failed b.message

/-- Prints expansions. -/
def print (json : Bool) (es : List Expansion) : List Text × Option Breakdown :=
  if json then
    match es.mapM expansionJson with
    | .ok values => ([Json.render 0 (.arr values)], none)
    | .error f => ([], some (.unprintable f))
  else if es.isEmpty then ([Text.ofString "No decorated records found"], none)
  else linesUntil (es.flatMap expansionLines)

/-- Runs the command. -/
def run (tree : FileTree) (here : Directory) (words : List Text) : Report :=
  match Order.read tree here words with
  | .error s => .stopped tree s
  | .ok o =>
    match expansions tree here o.file with
    | .error s => .stopped tree s
    | .ok es =>
      match print o.json es with
      | (lines, some b) => ⟨lines, some (.failed b.message), tree⟩
      | (lines, none) =>
        ⟨lines, if es.any Expansion.hasErrors then some (.reported []) else none, tree⟩

end Inspect

end FluentRecords
