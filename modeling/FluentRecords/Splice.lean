import FluentRecords.Activation.Request

/-!
Splicing: a module with its generated declarations in place. The factory goes to the end of the record,
the builder directly after it, and the import after the docstring and the imports from the future. A
module in which anything is wrong is left as it is.
-/

namespace FluentRecords

/-- Whether a statement is a text alone. -/
def Stmt.isText : Stmt → Bool
  | .simple _ (.expression (.constant (.str _ _))) => true
  | _ => false

/-- Whether a statement imports from the future. -/
def Stmt.isFutureImport : Stmt → Bool
  | .simple _ (.importFrom path _ _) => path == some (Text.ofString "__future__")
  | _ => false

namespace Module

/-- The statements that an import may not come before, and the others. -/
def preamble (m : Module) : List Stmt × List Stmt :=
  let (docstring, rest) := match m.body with
    | s :: rest => if s.isText then ([s], rest) else ([], s :: rest)
    | [] => ([], [])
  let (future, rest) := rest.span Stmt.isFutureImport
  (docstring ++ future, rest)

end Module

/-- A class declaration without its activation decorator and with a factory. -/
def Stmt.withFactory (record : Stmt) (activation : Text) (factory : Stmt) : Stmt :=
  match record with
  | .classDef p n bs ks ds body =>
    .classDef p n bs ks (ds.eraseP (·.expr.isActivation activation)) (body ++ [factory])
  | s => s

namespace Splice

/-- What a statement of a module becomes. -/
def statement (settings : Settings) (s : Stmt) : Except Breakdown (List Stmt) :=
  let activation := settings.activationName.val
  match Request.ofStmt? activation true s with
  | none => .ok [s]
  | some r => do
    let e ← r.expand settings
    match e.generated with
    | some g => .ok [s.withFactory activation g.factory, g.builder.stmt]
    | none => .ok [s]

/-- What several statements of a module become. -/
def statements (settings : Settings) : List Stmt → Except Breakdown (List Stmt)
  | [] => .ok []
  | s :: rest => do
    let here ← statement settings s
    let more ← statements settings rest
    .ok (here ++ more)

end Splice

/-- The outcome of expanding the requests of a module. -/
structure Splice where
  module : Module
  expansions : List Expansion

namespace Splice

/-- The diagnostics of the expansions, in their order. -/
def diagnostics (s : Splice) : List Diagnostic :=
  s.expansions.flatMap Expansion.diagnostics

/-- Whether an expansion failed. -/
def hasErrors (s : Splice) : Bool :=
  s.diagnostics.any Diagnostic.isError

end Splice

namespace Module

/-- Expands every request of a module. -/
def expandAll (settings : Settings) (m : Module) : Except Breakdown (List Expansion) :=
  (m.requests settings.activationName.val).mapM (Request.expand settings)

/-- The module with what is generated for its requests. -/
def splice (settings : Settings) (m : Module) : Except Breakdown Splice := do
  let expansions ← m.expandAll settings
  let unchanged : Splice := ⟨m, expansions⟩
  if unchanged.hasErrors || expansions.isEmpty then .ok unchanged
  else do
    let (first, rest) := m.preamble
    let rest ← Splice.statements settings rest
    .ok ⟨⟨first ++ Emission.supportImport :: rest⟩, expansions⟩

end Module

/-- The outcome of transforming a source: the new source, if nothing is wrong. -/
structure Transformed where
  source : Option Text
  expansions : List Expansion
  diagnostics : List Diagnostic

namespace Transformed

/-- Whether something is wrong. -/
def hasErrors (t : Transformed) : Bool :=
  t.diagnostics.any Diagnostic.isError

/-- The names of the records. -/
def names (t : Transformed) : List Text :=
  t.expansions.filterMap fun e => e.name.filter (!·.isEmpty)

end Transformed

/-- The breakdown that a source which cannot even be looked at leads to. -/
def SourceFault.asBreakdown : SourceFault → Except Breakdown SyntaxFault
  | .malformed f => .ok f
  | .unencodable f => .error (.unencodable f)
  | .nullCharacter => .error .nullCharacter

/-- Transforms the source of a module. One without requests stays as it is, to the letter. -/
def transform (settings : Settings) (source : Text) : Except Breakdown Transformed :=
  match Module.parse source with
  | .error f => do
    let f ← f.asBreakdown
    .ok ⟨none, [], [Diagnostic.ofFault f]⟩
  | .ok m => do
    let s ← m.splice settings
    if s.hasErrors then .ok ⟨none, s.expansions, s.diagnostics⟩
    else if s.expansions.isEmpty then .ok ⟨some source, [], []⟩
    else do
      let t ← Rendering.orBreakdown s.module.text
      .ok ⟨some (t ++ "\n"), s.expansions, s.diagnostics⟩

end FluentRecords
