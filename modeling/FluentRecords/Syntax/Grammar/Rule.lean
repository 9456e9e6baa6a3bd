import FluentRecords.Syntax.Grammar.Attempt

/-!
The rules of the grammar that refer to each other. Every rule is written once, over an assignment of
parsers to these rules (`Rules`); tying the knot is left to the end.
-/

namespace FluentRecords

/-- The rules through which the grammar refers to itself; `field` is what stands in a field of a formatted string, which
is parsed on its own. -/
inductive Rule
  | field
  | expression
  | disjunction
  | inversion
  | factor
  | bitwiseOr
  | namedExpression
  | starExpression
  | starNamedExpression
  | starNamedExpressions
  | starExpressions
  | yieldExpression
  | slices
  | arguments
  | clauses
  | starTarget
  | starTargets
  | plainTarget
  | singleTarget
  | deletionTarget
  | lambdaParams
  | pattern
  | block
  | statements
  | elif

/-- The arguments of a call while they are parsed. -/
structure ParsedArguments where
  origin : Origin
  args : List Parsed
  keywords : List Keyword

/-- A pattern and where it begins. -/
structure ParsedPattern where
  origin : Origin
  pattern : Pattern

/-- What a rule yields. -/
@[reducible]
def Rule.Result : Rule → Type
  | .starNamedExpressions => List Parsed
  | .arguments => ParsedArguments
  | .clauses => List Clause
  | .lambdaParams => Params
  | .pattern => ParsedPattern
  | .block => List Stmt
  | .statements => List Stmt
  | .elif => Stmt
  | _ => Parsed

/-- An assignment of parsers to the rules. -/
abbrev Rules := (r : Rule) → Parser r.Result

namespace Parsed

/-- The parts of an expression in which an assignment target may hide a wrong one. -/
def parts : Parsed → List Parsed
  | mk _ _ ps => ps

/-- An expression without such parts. -/
def leaf (o : Origin) (e : Expr) : Parsed :=
  mk o e []

/-- A tuple of elements. -/
def tuple (o : Origin) (elems : List Parsed) : Parsed :=
  mk o (.tuple (elems.map expr)) elems

/-- A list of elements. -/
def list (o : Origin) (elems : List Parsed) : Parsed :=
  mk o (.list (elems.map expr)) elems

/-- An unpacked value. -/
def starred (o : Origin) (value : Parsed) : Parsed :=
  mk o (.starred value.expr) [value]

end Parsed

/-- What an expression is called in reports about wrong targets. -/
def Expr.describe : Expr → Text
  | .name _ => "name"
  | .constant c =>
    match c with
    | .none => "None"
    | .bool b => if b then "True" else "False"
    | .ellipsis => "ellipsis"
    | _ => "literal"
  | .formatted _ => "f-string expression"
  | .tuple _ => "tuple"
  | .list _ => "list"
  | .set _ => "set display"
  | .dict _ => "dict literal"
  | .member _ _ => "attribute"
  | .subscript _ _ => "subscript"
  | .slice _ _ _ => "slice"
  | .starred _ => "starred"
  | .call _ _ _ => "function call"
  | .unary _ _ => "expression"
  | .binary _ _ _ => "expression"
  | .bool _ _ => "expression"
  | .compare _ _ => "comparison"
  | .conditional _ _ _ => "conditional expression"
  | .lambda _ _ => "lambda"
  | .named _ _ => "named expression"
  | .await _ => "await expression"
  | .yield _ => "yield expression"
  | .yieldFrom _ => "yield expression"
  | .listComp _ _ => "list comprehension"
  | .setComp _ _ => "set comprehension"
  | .generator _ _ => "generator expression"
  | .dictComp _ _ _ => "dict comprehension"

/-- What a target is for. -/
inductive TargetUse
  | assignment
  | loop
  | deletion
deriving DecidableEq

namespace Parsed

mutual

/-- The first part of an expression that cannot be a target. -/
def wrongTarget? (use : TargetUse) : Parsed → Option Parsed
  | mk o e parts =>
    match e with
    | .name _ => none
    | .subscript _ _ => none
    | .member _ _ => none
    | .tuple _ => wrongTargetOf? use parts
    | .list _ => wrongTargetOf? use parts
    | .starred _ => if use = .deletion then some (mk o e parts) else wrongTargetOf? use parts
    | .compare _ (.mk op _ :: _) =>
      if use = .loop then if op = .isIn then wrongTargetOf? use parts else none
      else some (mk o e parts)
    | e => some (mk o e parts)

/-- The first wrong target among several. -/
def wrongTargetOf? (use : TargetUse) : List Parsed → Option Parsed
  | [] => none
  | p :: rest => (wrongTarget? use p).or (wrongTargetOf? use rest)

end

end Parsed

namespace Parser

/-- Complains about the part of an expression that cannot be a target, if there is one. -/
def raiseWrongTarget (use : TargetUse) (p : Parsed) : Parser Unit :=
  match p.wrongTarget? use with
  | some wrong =>
    raiseAt wrong.origin
      ((if use = .deletion then "cannot delete " else "cannot assign to ") ++ wrong.expr.describe)
  | none => pure ()

/-- Where the next token begins, which stands inside a line. -/
def here : Parser Origin := do
  let t ← peek
  if t.isInner then pure t.origin else fail

end Parser

end FluentRecords
