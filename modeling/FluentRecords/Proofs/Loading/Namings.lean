import FluentRecords.Activation.Request
import FluentRecords.Loading.Globals

/-!
Names that the statements of a block bind and free: by definitions, imports, assignments and the like. What a class
or a function binds inside is its own, except for the names that it takes from the module.
-/

namespace FluentRecords

/-- What a statement does to a name. -/
inductive Naming
  | bind (name : Text)
  | free (name : Text)
deriving DecidableEq

/-- The name that is bound or freed. -/
def Naming.name : Naming → Text
  | bind n => n
  | free n => n

mutual

/-- The names that the evaluation of an expression binds. The body of a function without a name binds its own. -/
def Expr.namings : Expr → List Naming
  | .name _ => []
  | .constant _ => []
  | .formatted parts => namingsInParts parts
  | .tuple es => namingsIn es
  | .list es => namingsIn es
  | .set es => namingsIn es
  | .dict items => namingsInItems items
  | .member e _ => e.namings
  | .subscript e i => e.namings ++ i.namings
  | .slice lower upper step => namingsOption lower ++ namingsOption upper ++ namingsOption step
  | .starred e => e.namings
  | .call f args keywords => f.namings ++ namingsIn args ++ namingsInKeywords keywords
  | .unary _ e => e.namings
  | .binary _ l r => l.namings ++ r.namings
  | .bool _ es => namingsIn es
  | .compare l rest => l.namings ++ namingsInComparisons rest
  | .conditional test body orelse => test.namings ++ body.namings ++ orelse.namings
  | .lambda ps _ => ps.namings
  | .named (.name n) e => .bind n :: e.namings
  | .named _ e => e.namings
  | .await e => e.namings
  | .yield e => namingsOption e
  | .yieldFrom e => e.namings
  | .listComp e clauses => e.namings ++ namingsInClauses clauses
  | .setComp e clauses => e.namings ++ namingsInClauses clauses
  | .generator e clauses => e.namings ++ namingsInClauses clauses
  | .dictComp k v clauses => k.namings ++ v.namings ++ namingsInClauses clauses

def namingsIn : List Expr → List Naming
  | [] => []
  | e :: rest => e.namings ++ namingsIn rest

def namingsOption : Option Expr → List Naming
  | none => []
  | some e => e.namings

def namingsInParts : List FormatPart → List Naming
  | [] => []
  | .literal _ :: rest => namingsInParts rest
  | .field e _ :: rest => e.namings ++ namingsInParts rest
  | .fieldWith e _ format :: rest => e.namings ++ namingsInParts format ++ namingsInParts rest

def namingsInItems : List DictItem → List Naming
  | [] => []
  | .entry k v :: rest => k.namings ++ v.namings ++ namingsInItems rest
  | .unpack e :: rest => e.namings ++ namingsInItems rest

def namingsInKeywords : List Keyword → List Naming
  | [] => []
  | .mk _ _ e :: rest => e.namings ++ namingsInKeywords rest

def namingsInComparisons : List Comparison → List Naming
  | [] => []
  | .mk _ e :: rest => e.namings ++ namingsInComparisons rest

/-- The variables of a comprehension are its own. -/
def namingsInClauses : List Clause → List Naming
  | [] => []
  | .mk _ _ iter conditions :: rest => iter.namings ++ namingsIn conditions ++ namingsInClauses rest

/-- The defaults of parameters are evaluated outside of the function. -/
def Params.namings : Params → List Naming
  | .mk positional regular _ keyword _ =>
    namingsOfDefaults positional ++ namingsOfDefaults regular ++ namingsOfDefaults keyword

def namingsOfDefaults : List Param → List Naming
  | [] => []
  | .mk _ _ dflt :: rest => namingsOption dflt ++ namingsOfDefaults rest

end

mutual

/-- The names that a target binds when something is assigned to it. -/
def Expr.targetNamings : Expr → List Naming
  | .name n => [.bind n]
  | .tuple es => targetNamingsIn es
  | .list es => targetNamingsIn es
  | .starred e => e.targetNamings
  | e => e.namings

def targetNamingsIn : List Expr → List Naming
  | [] => []
  | e :: rest => e.targetNamings ++ targetNamingsIn rest

end

mutual

/-- The names that a target frees when it is deleted. -/
def Expr.deletionNamings : Expr → List Naming
  | .name n => [.free n]
  | .tuple es => deletionNamingsIn es
  | .list es => deletionNamingsIn es
  | e => e.namings

def deletionNamingsIn : List Expr → List Naming
  | [] => []
  | e :: rest => e.deletionNamings ++ deletionNamingsIn rest

end

mutual

/-- The names that a pattern binds. -/
def Pattern.namings : Pattern → List Naming
  | .value e => e.namings
  | .singleton _ => []
  | .sequence patterns => namingsInPatterns patterns
  | .star name => (name.map Naming.bind).toList
  | .mapping keys patterns rest => namingsIn keys ++ namingsInPatterns patterns ++ (rest.map Naming.bind).toList
  | .classOf cls patterns _ keywordPatterns =>
    cls.namings ++ namingsInPatterns patterns ++ namingsInPatterns keywordPatterns
  | .wildcard => []
  | .capture name => [.bind name]
  | .bind pattern name => .bind name :: pattern.namings
  | .alternatives patterns => namingsInPatterns patterns

def namingsInPatterns : List Pattern → List Naming
  | [] => []
  | p :: rest => p.namings ++ namingsInPatterns rest

end

/-- The first name of a dotted one. -/
def Alias.boundName (a : Alias) : Text :=
  a.asName.getD (a.name.takeWhile (· != 46))

/-- The names that a statement without statements inside binds and frees. -/
def SimpleStmt.namings : SimpleStmt → List Naming
  | .expression e => e.namings
  | .assign targets e => e.namings ++ targetNamingsIn targets
  | .augmented target _ e => target.namings ++ e.namings ++ target.targetNamings
  | .annotated target _ _ type value =>
    type.namings ++ match value with
      | some e => e.namings ++ target.targetNamings
      | none => target.namings
  | .delete targets => deletionNamingsIn targets
  | .returnValue value => namingsOption value
  | .raiseError error cause => namingsOption error ++ namingsOption cause
  | .assert test message => test.namings ++ namingsOption message
  | .importNames names => names.map fun a => .bind a.boundName
  | .importFrom _ _ names => names.map fun a => .bind (a.asName.getD a.name)
  | _ => []

mutual

/-- The names that a statement binds and frees in the block in which it stands. -/
def Stmt.namings : Stmt → List Naming
  | .simple _ s => s.namings
  | .classDef _ n bases keywords ds _ =>
    namingsIn (ds.map Decorator.expr) ++ namingsIn bases ++ namingsInKeywords keywords ++ [.bind n]
  | .functionDef _ _ n ps returns ds _ =>
    namingsIn (ds.map Decorator.expr) ++ ps.namings ++ namingsOption returns ++ [.bind n]
  | .ifElse _ test body orelse => test.namings ++ namingsAmong body ++ namingsAmong orelse
  | .forLoop _ _ target iter body orelse =>
    iter.namings ++ target.targetNamings ++ namingsAmong body ++ namingsAmong orelse
  | .whileLoop _ test body orelse => test.namings ++ namingsAmong body ++ namingsAmong orelse
  | .withBlock _ _ items body =>
    (items.flatMap fun i => i.context.namings ++ (i.target.map Expr.targetNamings).getD []) ++ namingsAmong body
  | .tryBlock _ _ body handlers orelse final =>
    namingsAmong body ++ namingsInHandlers handlers ++ namingsAmong orelse ++ namingsAmong final
  | .matchBlock _ subject cases => subject.namings ++ namingsInCases cases

def namingsAmong : List Stmt → List Naming
  | [] => []
  | s :: rest => s.namings ++ namingsAmong rest

/-- The name of a handled fault is bound and then freed. -/
def namingsInHandlers : List Handler → List Naming
  | [] => []
  | .mk type name body :: rest =>
    namingsOption type ++ (name.map fun n => [.bind n, .free n]).getD [] ++ namingsAmong body ++ namingsInHandlers rest

def namingsInCases : List MatchCase → List Naming
  | [] => []
  | .mk pattern guard body :: rest =>
    pattern.namings ++ namingsOption guard ++ namingsAmong body ++ namingsInCases rest

end

/-- What the body of a class or of a function does to names of the module. -/
def outwardNamings (body : List Stmt) : List Naming :=
  (namingsAmong body).filter fun x => (globalsAmong body).elem x.name

/-- What a class or a function does to names of the module, but for what is inside others in it. -/
def Stmt.outwardNamings : Stmt → List Naming
  | .classDef _ _ _ _ _ body => FluentRecords.outwardNamings body
  | .functionDef _ _ _ _ _ _ body => FluentRecords.outwardNamings body
  | _ => []

/-- The names of a module that its own statements bind and free. -/
def Module.namings (m : Module) : List Naming :=
  namingsAmong m.body ++ (stmtsWithin m.body).flatMap Stmt.outwardNamings

end FluentRecords
