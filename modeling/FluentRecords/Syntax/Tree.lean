import FluentRecords.Decimal.Binary64
import FluentRecords.Text.Basic

/-!
The syntax tree of a Python module. Expressions carry no positions; the places a report can point to do:
statements, decorators, keyword arguments and the targets of annotated assignments. So two declarations
that differ in layout only have equal annotations.
-/

namespace FluentRecords

/-- A place in a source: a line, counted from one, and a column in UTF-8 bytes, counted from zero. -/
structure Pos where
  line : Nat
  column : Nat
deriving DecidableEq, Repr

/-- The place of what has none of its own. -/
def Pos.start : Pos := ⟨1, 0⟩

/-- A constant. A text remembers whether it was marked with the prefix `u`. -/
inductive Constant
  | none
  | ellipsis
  | bool (b : Bool)
  | int (n : Nat)
  | float (x : Binary64)
  | imaginary (x : Binary64)
  | str (t : Text) (marked : Bool)
  | bytes (bs : List UInt8)
deriving DecidableEq

/-- The unary operators. -/
inductive UnaryOp
  | invert
  | not
  | plus
  | minus
deriving DecidableEq

/-- The binary operators. -/
inductive BinaryOp
  | add
  | sub
  | mul
  | matMul
  | div
  | mod
  | leftShift
  | rightShift
  | bitOr
  | bitXor
  | bitAnd
  | floorDiv
  | pow
deriving DecidableEq

/-- The short-circuit operators. -/
inductive BoolOp
  | and
  | or
deriving DecidableEq

/-- The comparison operators. -/
inductive CompareOp
  | eq
  | notEq
  | lt
  | le
  | gt
  | ge
  | is
  | isNot
  | isIn
  | notIn
deriving DecidableEq

/-- The conversion applied to a field of a formatted string. -/
inductive Conversion
  | str
  | repr
  | ascii
deriving DecidableEq

mutual

/-- An expression. -/
inductive Expr
  | name (id : Text)
  | constant (value : Constant)
  | formatted (parts : List FormatPart)
  | tuple (elems : List Expr)
  | list (elems : List Expr)
  | set (elems : List Expr)
  | dict (items : List DictItem)
  | member (value : Expr) (attr : Text)
  | subscript (value index : Expr)
  | slice (lower upper step : Option Expr)
  | starred (value : Expr)
  | call (func : Expr) (args : List Expr) (keywords : List Keyword)
  | unary (op : UnaryOp) (operand : Expr)
  | binary (op : BinaryOp) (left right : Expr)
  | bool (op : BoolOp) (values : List Expr)
  | compare (left : Expr) (rest : List Comparison)
  | conditional (test body orelse : Expr)
  | lambda (params : Params) (body : Expr)
  | named (target value : Expr)
  | await (value : Expr)
  | yield (value : Option Expr)
  | yieldFrom (value : Expr)
  | listComp (elem : Expr) (clauses : List Clause)
  | setComp (elem : Expr) (clauses : List Clause)
  | generator (elem : Expr) (clauses : List Clause)
  | dictComp (key value : Expr) (clauses : List Clause)

/-- A part of a formatted string: literal text, or a field with a conversion and a format. -/
inductive FormatPart
  | literal (t : Text)
  | field (value : Expr) (conversion : Option Conversion)
  | fieldWith (value : Expr) (conversion : Option Conversion) (format : List FormatPart)

/-- An entry of a dictionary display. -/
inductive DictItem
  | entry (key value : Expr)
  | unpack (value : Expr)

/-- A keyword argument with its place; without a name it unpacks a mapping. -/
inductive Keyword
  | mk (name : Option Text) (place : Pos) (value : Expr)

/-- A further operand of a chain of comparisons. -/
inductive Comparison
  | mk (op : CompareOp) (right : Expr)

/-- A clause of a comprehension. -/
inductive Clause
  | mk (isAsync : Bool) (target iter : Expr) (conditions : List Expr)

/-- A parameter. -/
inductive Param
  | mk (name : Text) (type dflt : Option Expr)

/-- The parameters of a function: those given by position only, the regular ones, the one that takes
further positional arguments, those given by keyword only, and the one that takes further keywords. -/
inductive Params
  | mk (positional regular : List Param) (rest : Option Param) (keyword : List Param)
    (keywordRest : Option Param)

end

namespace Keyword

/-- The name of the argument. -/
def name : Keyword → Option Text
  | mk n _ _ => n

/-- The place of the argument's value. -/
def place : Keyword → Pos
  | mk _ p _ => p

/-- The value of the argument. -/
def value : Keyword → Expr
  | mk _ _ e => e

end Keyword

/-- The name of a parameter. -/
def Param.name : Param → Text
  | mk n _ _ => n

/-- No parameters. -/
def Params.empty : Params := .mk [] [] none [] none

/-- A pattern of a `match` statement. -/
inductive Pattern
  | value (e : Expr)
  | singleton (c : Constant)
  | sequence (patterns : List Pattern)
  | star (name : Option Text)
  | mapping (keys : List Expr) (patterns : List Pattern) (rest : Option Text)
  | classOf (cls : Expr) (patterns : List Pattern) (names : List Text)
    (keywordPatterns : List Pattern)
  | wildcard
  | capture (name : Text)
  | bind (pattern : Pattern) (name : Text)
  | alternatives (patterns : List Pattern)

/-- An imported name and what it is called. -/
structure Alias where
  name : Text
  asName : Option Text
deriving DecidableEq

/-- A statement without statements inside. -/
inductive SimpleStmt
  | expression (e : Expr)
  | assign (targets : List Expr) (value : Expr)
  | augmented (target : Expr) (op : BinaryOp) (value : Expr)
  | annotated (target : Expr) (targetAt : Pos) (bare : Bool) (type : Expr)
    (value : Option Expr)
  | delete (targets : List Expr)
  | pass
  | breakLoop
  | continueLoop
  | returnValue (value : Option Expr)
  | raiseError (error cause : Option Expr)
  | global (names : List Text)
  | nonlocal (names : List Text)
  | assert (test : Expr) (message : Option Expr)
  | importNames (names : List Alias)
  | importFrom (module : Option Text) (level : Nat) (names : List Alias)

/-- A decorator with its place. -/
structure Decorator where
  place : Pos
  expr : Expr

/-- A context manager and what its value is bound to. -/
structure WithItem where
  context : Expr
  target : Option Expr

mutual

/-- A statement with its place; that of a decorated declaration is the place of its own keyword. -/
inductive Stmt
  | simple (place : Pos) (s : SimpleStmt)
  | classDef (place : Pos) (name : Text) (bases : List Expr) (keywords : List Keyword)
    (decorators : List Decorator) (body : List Stmt)
  | functionDef (place : Pos) (isAsync : Bool) (name : Text) (params : Params)
    (returns : Option Expr) (decorators : List Decorator) (body : List Stmt)
  | ifElse (place : Pos) (test : Expr) (body orelse : List Stmt)
  | forLoop (place : Pos) (isAsync : Bool) (target iter : Expr) (body orelse : List Stmt)
  | whileLoop (place : Pos) (test : Expr) (body orelse : List Stmt)
  | withBlock (place : Pos) (isAsync : Bool) (items : List WithItem) (body : List Stmt)
  | tryBlock (place : Pos) (grouped : Bool) (body : List Stmt) (handlers : List Handler)
    (orelse final : List Stmt)
  | matchBlock (place : Pos) (subject : Expr) (cases : List MatchCase)

/-- A handler of a `try` statement. -/
inductive Handler
  | mk (type : Option Expr) (name : Option Text) (body : List Stmt)

/-- A case of a `match` statement. -/
inductive MatchCase
  | mk (pattern : Pattern) (guard : Option Expr) (body : List Stmt)

end

/-- A module is its list of statements. -/
structure Module where
  body : List Stmt

/-- A class declaration. -/
structure ClassDecl where
  place : Pos
  name : Text
  bases : List Expr
  keywords : List Keyword
  decorators : List Decorator
  body : List Stmt

/-- The statement of a class declaration. -/
def ClassDecl.stmt (c : ClassDecl) : Stmt :=
  .classDef c.place c.name c.bases c.keywords c.decorators c.body

namespace Stmt

/-- The place of a statement. -/
def place : Stmt → Pos
  | simple p _ => p
  | classDef p _ _ _ _ _ => p
  | functionDef p _ _ _ _ _ _ => p
  | ifElse p _ _ _ => p
  | forLoop p _ _ _ _ _ => p
  | whileLoop p _ _ _ => p
  | withBlock p _ _ _ => p
  | tryBlock p _ _ _ _ _ => p
  | matchBlock p _ _ => p

/-- The class declaration a statement is. -/
def classDecl? : Stmt → Option ClassDecl
  | classDef p n bs ks ds body => some ⟨p, n, bs, ks, ds, body⟩
  | _ => none

/-- The name a statement declares. -/
def declaredName? : Stmt → Option Text
  | classDef _ n _ _ _ _ => some n
  | functionDef _ _ n _ _ _ _ => some n
  | _ => none

/-- The decorators of a declaration; other statements have none. -/
def decorators : Stmt → List Decorator
  | classDef _ _ _ _ ds _ => ds
  | functionDef _ _ _ _ _ ds _ => ds
  | _ => []

/-- The name of the kind of a statement. -/
def kindName : Stmt → Text
  | simple _ s =>
    match s with
    | .expression _ => "Expr"
    | .assign _ _ => "Assign"
    | .augmented _ _ _ => "AugAssign"
    | .annotated _ _ _ _ _ => "AnnAssign"
    | .delete _ => "Delete"
    | .pass => "Pass"
    | .breakLoop => "Break"
    | .continueLoop => "Continue"
    | .returnValue _ => "Return"
    | .raiseError _ _ => "Raise"
    | .global _ => "Global"
    | .nonlocal _ => "Nonlocal"
    | .assert _ _ => "Assert"
    | .importNames _ => "Import"
    | .importFrom _ _ _ => "ImportFrom"
  | classDef _ _ _ _ _ _ => "ClassDef"
  | functionDef _ isAsync _ _ _ _ _ => if isAsync then "AsyncFunctionDef" else "FunctionDef"
  | ifElse _ _ _ _ => "If"
  | forLoop _ isAsync _ _ _ _ => if isAsync then "AsyncFor" else "For"
  | whileLoop _ _ _ _ => "While"
  | withBlock _ isAsync _ _ => if isAsync then "AsyncWith" else "With"
  | tryBlock _ grouped _ _ _ _ => if grouped then "TryStar" else "Try"
  | matchBlock _ _ _ => "Match"

/-- The statements directly inside, in source order. -/
def inner : Stmt → List Stmt
  | simple _ _ => []
  | classDef _ _ _ _ _ body => body
  | functionDef _ _ _ _ _ _ body => body
  | ifElse _ _ body orelse => body ++ orelse
  | forLoop _ _ _ _ body orelse => body ++ orelse
  | whileLoop _ _ body orelse => body ++ orelse
  | withBlock _ _ _ body => body
  | tryBlock _ _ body handlers orelse final =>
    body ++ handlers.flatMap (fun | .mk _ _ b => b) ++ orelse ++ final
  | matchBlock _ _ cases => cases.flatMap (fun | .mk _ _ b => b)

end Stmt

end FluentRecords
