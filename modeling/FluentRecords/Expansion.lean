import FluentRecords.Builder.Emission
import FluentRecords.Diagnostic

/-!
Expansion of a declaration into its builder. Either everything is generated, or nothing is and a
diagnostic says why.
-/

namespace FluentRecords

/-- What is generated for a record. -/
structure Generated where
  /-- The record, classified. -/
  record : Record
  builder : ClassDecl
  factory : Stmt

namespace Generated

/-- The imports generated code needs. -/
def imports (_ : Generated) : List Stmt :=
  [Emission.supportImport]

/-- The statements that belong next to the record in its module. -/
def declarations (g : Generated) : List Stmt :=
  g.imports ++ [g.builder.stmt]

/-- What is generated for a classified record. -/
def ofRecord (r : Record) (settings : Settings) : Generated :=
  let builder := settings.builderName r.name
  { record := r
    builder := Emission.builderClass (BuilderShape.ofRecord r builder) settings
    factory := Emission.factory builder settings }

end Generated

/-- The result of expanding a declaration, with its name if it has one. -/
structure Expansion where
  name : Option Text
  generated : Option Generated
  diagnostics : List Diagnostic

/-- The types of a record are printed once when it is classified; one without a text ends the
expansion. -/
def Record.checkTypes (r : Record) : Except PrintFault Unit :=
  r.fields.forM fun f => do
    let _ ← f.slot.type.text
    .ok ()

namespace Expansion

/-- An expansion that failed for a reason. -/
def failed (name : Option Text) (f : ShapeFault) : Except PrintFault Expansion := do
  let d ← Diagnostic.ofShape f
  .ok ⟨name, none, [d]⟩

/-- Expands a declaration. -/
def expand (settings : Settings) (d : Declaration) : Except PrintFault Expansion :=
  match d.record settings.reservedNames with
  | .error f => failed d.name? f
  | .ok r => do
    let r := r.classify settings.wrapperName.val
    r.checkTypes
    .ok ⟨d.name?, some (.ofRecord r settings), []⟩

/-- Whether there is an error among the diagnostics. -/
def hasErrors (e : Expansion) : Bool :=
  e.diagnostics.any Diagnostic.isError

/-- The line about a field in a summary. -/
def fieldLine (f : Field) : Rendering := do
  let type ← f.declared.text
  let kind := match f.kind? with
    | some k => k.text
    | none => "?"
  .ok ("    " ++ f.name ++ ": " ++ type ++ " (" ++ kind ++ ")")

/-- A summary for readers. -/
def summary (e : Expansion) : Rendering := do
  let title : Text := match e.name with
    | some n => if n.isEmpty then "<unnamed>" else n
    | none => "<unnamed>"
  let body ← match e.generated with
    | some g => do
      let fields ← g.record.fields.mapM fieldLine
      .ok (("  Builder: " ++ g.builder.name) :: fields)
    | none => .ok [Text.ofString "  Builder: Not generated"]
  let problems : List Text := if e.diagnostics.isEmpty then [] else
    ("\nDiagnostics (" ++ Text.ofNat e.diagnostics.length ++ "):")
      :: e.diagnostics.map fun d => "  - " ++ d.render none
  let first : Text := "Expansion of " ++ title ++ ":"
  .ok (Text.join "\n" (first :: body ++ problems))

end Expansion

end FluentRecords
