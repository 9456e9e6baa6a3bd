import FluentRecords.Syntax.Source
import FluentRecords.Record.Shape

/-!
Diagnostics: located messages about declarations. Lines and columns are integers, because a diagnostic
can be moved by any amount.
-/

namespace FluentRecords

/-- How serious a diagnostic is. -/
inductive Severity
  | error
  | warning
deriving DecidableEq

/-- The word for a severity. -/
def Severity.text : Severity → Text
  | error => "error"
  | warning => "warning"

/-- A located message. Columns count from zero, but are shown counted from one. -/
structure Diagnostic where
  message : Text
  line : Int
  column : Int
  severity : Severity
deriving DecidableEq

namespace Diagnostic

/-- Whether the diagnostic stands for an error. -/
def isError (d : Diagnostic) : Bool :=
  d.severity = .error

/-- The diagnostic some lines and columns further on. -/
def shifted (d : Diagnostic) (lines columns : Int) : Diagnostic :=
  { d with line := d.line + lines, column := d.column + columns }

/-- The text of a diagnostic, after a path if there is one. -/
def render (d : Diagnostic) (path : Option Text) : Text :=
  let location := Text.ofInt d.line ++ ":" ++ Text.ofInt (d.column + 1)
  let located := match path with
    | some p => p ++ ":" ++ location
    | none => location
  located ++ ": " ++ d.severity.text ++ ": " ++ d.message

/-- An error at a place. -/
def errorAt (p : Pos) (message : Text) : Diagnostic :=
  ⟨message, p.line, p.column, .error⟩

/-- The diagnostic of a fault in a declaration. -/
def ofShape (f : ShapeFault) : Except PrintFault Diagnostic := do
  let message ← f.cause.message
  .ok (errorAt f.place message)

/-- The diagnostic of a source that cannot be parsed; what is not known counts as one. -/
def ofSyntax (message : Option Text) (line offset : Option Int) : Diagnostic where
  message := "invalid syntax: " ++ message.getD "None"
  line :=
    match line with
    | some 0 => 1
    | some l => l
    | none => 1
  column :=
    match offset with
    | some 0 => 0
    | some o => max (o - 1) 0
    | none => 0
  severity := .error

/-- The diagnostic of a malformed source. -/
def ofFault (f : SyntaxFault) : Diagnostic :=
  ofSyntax (some f.message) (some f.line) (some f.offset)

end Diagnostic

end FluentRecords
