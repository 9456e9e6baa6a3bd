import FluentRecords.Activation.Arguments
import FluentRecords.Expansion

/-!
Requests for builders: declarations with the activation decorator, wherever they stand in a module.
Functions that carry it are found as well, so that they can be reported.
-/

namespace FluentRecords

/-- Whether a decorator is the activation decorator: its name or last attribute, perhaps called. -/
def Expr.isActivation (activation : Text) (e : Expr) : Bool :=
  let target := match e with
    | call f _ _ => f
    | e => e
  target.lastName? == some activation

mutual

/-- The statements inside a statement, at any depth, in source order. -/
def Stmt.within : Stmt → List Stmt
  | .simple _ _ => []
  | .classDef _ _ _ _ _ body => stmtsWithin body
  | .functionDef _ _ _ _ _ _ body => stmtsWithin body
  | .ifElse _ _ body orelse => stmtsWithin body ++ stmtsWithin orelse
  | .forLoop _ _ _ _ body orelse => stmtsWithin body ++ stmtsWithin orelse
  | .whileLoop _ _ body orelse => stmtsWithin body ++ stmtsWithin orelse
  | .withBlock _ _ _ body => stmtsWithin body
  | .tryBlock _ _ body handlers orelse final =>
    stmtsWithin body ++ handlersWithin handlers ++ stmtsWithin orelse ++ stmtsWithin final
  | .matchBlock _ _ cases => casesWithin cases

/-- The given statements and those inside them. -/
def stmtsWithin : List Stmt → List Stmt
  | [] => []
  | s :: rest => s :: s.within ++ stmtsWithin rest

/-- The statements inside handlers. -/
def handlersWithin : List Handler → List Stmt
  | [] => []
  | .mk _ _ body :: rest => stmtsWithin body ++ handlersWithin rest

/-- The statements inside cases. -/
def casesWithin : List MatchCase → List Stmt
  | [] => []
  | .mk _ _ body :: rest => stmtsWithin body ++ casesWithin rest

end

/-- A declaration that requests a builder: its name, the decorator that does so, the first one of
several, and whether it stands directly in the module. -/
structure Request where
  stmt : Stmt
  name : Text
  decorator : Decorator
  topLevel : Bool

namespace Request

/-- The request that a statement makes. -/
def ofStmt? (activation : Text) (topLevel : Bool) (s : Stmt) : Option Request := do
  let name ← s.declaredName?
  let d ← s.decorators.find? (·.expr.isActivation activation)
  some ⟨s, name, d, topLevel⟩

/-- The order of places. -/
def before (r s : Request) : Bool :=
  let p := r.stmt.place
  let q := s.stmt.place
  p.line < q.line || (p.line == q.line && p.column ≤ q.column)

/-- The requests of a statement of a module and of those inside it. -/
def ofTopLevel (activation : Text) (s : Stmt) : List Request :=
  (ofStmt? activation true s).toList ++ s.within.filterMap (ofStmt? activation false)

/-- Expands the declaration of a request. Nested ones are refused, and the arguments of the decorator
are applied to the settings. -/
def expand (settings : Settings) (r : Request) : Except Breakdown Expansion :=
  if !r.topLevel then .ok (refused ⟨.nested r.name, r.stmt.place⟩)
  else
    match r.decorator.overrides with
    | .error f => faulty f
    | .ok o =>
      match settings.withOverrides r.decorator.place o with
      | .error f => faulty f
      | .ok s => Rendering.orBreakdown (Expansion.expand s (.stmt r.stmt))
where
  refused (f : RequestFault) : Expansion :=
    ⟨some r.name, none, [Diagnostic.errorAt f.place f.cause.message]⟩
  faulty : ArgumentFault → Except Breakdown Expansion
    | .request f => .ok (refused f)
    | .breakdown b => .error b

end Request

/-- The requests of a module, in the order of their places. -/
def Module.requests (activation : Text) (m : Module) : List Request :=
  (m.body.flatMap (Request.ofTopLevel activation)).mergeSort Request.before

end FluentRecords
