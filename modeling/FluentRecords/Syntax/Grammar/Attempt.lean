import FluentRecords.Syntax.Grammar.Parser

/-!
Parsing a whole source. A source without a parse is parsed again with the rules that recognise common
mistakes; if they find nothing, the last token looked at in the first pass is the fault. A fault of the
grammar gives way to one in the characters further on, which probably caused it, and to a bracket that
was opened on an earlier line and is never closed.
-/

namespace FluentRecords

/-- A way of parsing a whole source: what is expected, and how the messages of faults begin. -/
structure Attempt (α : Type) where
  parser : Parser α
  label : Text

namespace Attempt

variable {α : Type}

/-- A message with the label in front. -/
def labelled (a : Attempt α) (f : SyntaxFault) : SyntaxFault :=
  { f with message := a.label ++ f.message }

/-- The line of the last token looked at. -/
def lineSeen (tokens : Tokens) (m : ParseMemory) : Nat :=
  ((tokens.tokens[m.seen - 1]?).map (·.place.line)).getD 0

/-- The fault to report for a fault of the grammar. -/
def outrank (a : Attempt α) (tokens : Tokens) (m : ParseMemory) (f : SyntaxFault) : SyntaxFault :=
  match tokens.fault with
  | none => f
  | some t =>
    if t.lexical then t.fault
    else match t.bracket with
      | some b => if b.line < lineSeen tokens m then a.labelled b.neverClosed else f
      | none => f

/-- The fault to report for what a pass found. -/
def conclude (a : Attempt α) (tokens : Tokens) (m : ParseMemory) (f : ParseFault) : SyntaxFault :=
  match f.source with
  | .characters => f.fault
  | .tokens => a.labelled f.fault
  | .grammar => a.outrank tokens m (a.labelled f.fault)
  | .field => a.outrank tokens m f.fault

/-- The fault of a mark of indentation that nothing asks for. -/
def strayMark (kind : TokenKind) : Option Text :=
  match kind with
  | .indent => some "unexpected indent"
  | .dedent => some "unexpected unindent"
  | _ => none

/-- The fault where no rule for common mistakes finds one; `last` is the last token of the first
pass. -/
def unexplained (a : Attempt α) (tokens : Tokens) (m : ParseMemory) (last : Token) : SyntaxFault :=
  match strayMark last.kind with
  | some message =>
    match tokens.tokens[m.seen - 1]? with
    | some t =>
      a.labelled ⟨.indentation, message, t.place.line, if t.isPlaced then t.offset + 1 else t.offset⟩
    | none => a.labelled ⟨.indentation, message, last.place.line, last.offset⟩
  | none =>
    let offset := if last.isPlaced then last.offset + 1 else 0
    a.outrank tokens m (a.labelled ⟨.syntactic, "invalid syntax", last.place.line, offset⟩)

/-- Parses the tokens of a source. -/
def run (a : Attempt α) (tokens : Tokens) : Except SyntaxFault α :=
  match a.parser ⟨tokens, false⟩ 0 (.start 0) with
  | .ok x _ _ => .ok x
  | .fault f m => .error (a.conclude tokens m f)
  | .fail m =>
    match a.parser ⟨tokens, true⟩ 0 (.start m.seen) with
    | .fault f m' => .error (a.conclude tokens m' f)
    | .ok _ _ m' | .fail m' =>
      match tokens.tokens[m.seen - 1]? with
      | some last => .error (a.unexplained tokens m' last)
      | none => .error ⟨.syntactic, a.label ++ "invalid syntax", 0, 0⟩

end Attempt

end FluentRecords
