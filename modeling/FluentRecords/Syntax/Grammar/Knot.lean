import FluentRecords.Syntax.Grammar.Compound

/-!
The rules tied together. A rule refers to others one level deeper. Every nested expression, block or string takes up
characters of the source, so that no source goes as deep as the limit.
-/

namespace FluentRecords.Grammar

open FluentRecords.Parser

/-- Each rule over the others. -/
def rule (g : Rules) : Rules
  | .field => g .field
  | .expression => expression g
  | .disjunction => disjunction g
  | .inversion => inversion g
  | .factor => factor g
  | .bitwiseOr => bitwiseOr g
  | .namedExpression => namedExpression g
  | .starExpression => starExpression g
  | .starNamedExpression => starNamedExpression g
  | .starNamedExpressions => commaSeparated (g .starNamedExpression)
  | .starExpressions => starExpressions g
  | .yieldExpression => yieldExpression g
  | .slices => slices g
  | .arguments => arguments g
  | .clauses => clauses g
  | .starTarget => starTarget g
  | .starTargets => starTargets g
  | .plainTarget => plainTarget g
  | .singleTarget => singleTarget g
  | .deletionTarget => deletionTarget g
  | .lambdaParams => lambdaForm.checked g
  | .pattern => pattern g
  | .block => block g
  | .statements => statements g
  | .elif => conditionBlock g "elif"

/-- The fault of a source that is nested too deeply. -/
def tooDeep {α : Type} : Parser α :=
  raise ⟨.syntactic, "too many levels of nesting", 0, 0⟩

/-- The rules with a number of levels to go, over what stands in the fields of formatted strings. -/
def rulesOver (field : Parser Parsed) : Nat → Rules
  | 0, _ => tooDeep
  | _ + 1, .field => field
  | levels + 1, r => fun env i m => rule (rulesOver field levels) r env i m

/-- How deep rules refer to each other at most, and how deep formatted strings are nested. -/
def deepest : Nat :=
  4294967296

/-- What stands in a field of a formatted string, with a number of nested formatted strings to go. -/
def fieldRule : Nat → Parser Parsed
  | 0 => tooDeep
  | nested + 1 => fun env i m => rulesOver (fieldRule nested) deepest .starExpressions env i m

/-- All the rules. -/
def rules : Rules :=
  rulesOver (fieldRule deepest) deepest

/-- A whole module. -/
def wholeModule (g : Rules) : Parser (List Stmt) := do
  let ss ← optional (statements g)
  let _ ← kind .finish
  pure (ss.getD [])

/-- A whole expression. -/
def wholeExpression (g : Rules) : Parser Parsed := do
  let e ← expressions g
  let _ ← many (kind .newline)
  let _ ← kind .finish
  pure e

end FluentRecords.Grammar
