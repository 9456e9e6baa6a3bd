import FluentRecords.Syntax.Printer.Expr

/-!
The text of statements and modules, as a list of lines. Blocks are indented by four blanks, a
declaration is preceded by an empty line unless it comes first, and a string that opens a module, a
class or a function is written as a documentation string.
-/

namespace FluentRecords

/-- The lines of a tree, if it has a text. A line may hold line feeds of a string literal. -/
abbrev Lines := Except PrintFault (List Text)

/-- A line at a depth of indentation. -/
def indentLine (depth : Nat) (t : Text) : Text :=
  List.replicate (4 * depth) 32 ++ t

/-- The text of an optional expression after some words. -/
def optionText (before : Text) : Option Expr → Rendering
  | none => .ok []
  | some e => do
    let t ← e.text
    .ok (before ++ t)

/-- The texts of expressions in places that require a strength. -/
def textsAt (s : Strength) (es : List Expr) : Except PrintFault (List Text) :=
  es.mapM (Expr.render false s)

/-- The text of an import. -/
def Alias.text (a : Alias) : Text :=
  match a.asName with
  | none => a.name
  | some n => a.name ++ " as " ++ n

namespace Pattern

mutual

/-- The text of a pattern in a place that requires a strength. -/
def render (required : Strength) : Pattern → Rendering
  | value e => e.text
  | singleton c => c.text false
  | sequence ps => do
    let ts ← renderAll ps
    .ok ("[" ++ Text.join ", " ts ++ "]")
  | star n => .ok ("*" ++ n.getD "_")
  | mapping keys ps rest => do
    let ks ← keys.mapM Expr.text
    let ts ← renderAll ps
    let entries : List Text := (ks.zip ts).map fun e => e.1 ++ Text.ofString ": " ++ e.2
    let tail : List Text := match rest with
      | none => []
      | some n => ["**" ++ n]
    .ok ("\x7b" ++ Text.join ", " (entries ++ tail) ++ "\x7d")
  | classOf cls ps names kps => do
    let c ← cls.render false .atom
    let ts ← renderAll ps
    let ks ← renderAll kps
    let keywords : List Text := (names.zip ks).map fun e => e.1 ++ Text.ofString "=" ++ e.2
    .ok (c ++ "(" ++ Text.join ", " (ts ++ keywords) ++ ")")
  | wildcard => .ok "_"
  | capture n => .ok n
  | bind p n => do
    let t ← render .bitOr p
    .ok (enclose required .test (t ++ " as " ++ n))
  | alternatives ps => do
    let ts ← renderStrong ps
    .ok (enclose required .bitOr (Text.join " | " ts))

/-- The texts of patterns that stand for themselves. -/
def renderAll : List Pattern → Except PrintFault (List Text)
  | [] => .ok []
  | p :: rest => do
    let t ← render .test p
    let ts ← renderAll rest
    .ok (t :: ts)

/-- The texts of the alternatives of a pattern. -/
def renderStrong : List Pattern → Except PrintFault (List Text)
  | [] => .ok []
  | p :: rest => do
    let t ← render Strength.bitOr.next p
    let ts ← renderStrong rest
    .ok (t :: ts)

end

end Pattern

/-- The text of a statement without statements inside. -/
def SimpleStmt.text : SimpleStmt → Rendering
  | expression e => e.render false .yield
  | assign targets value => do
    let ts ← textsAt .tuple targets
    let v ← value.text
    .ok (ts.flatMap (· ++ Text.ofString " = ") ++ v)
  | augmented target op value => do
    let t ← target.text
    let v ← value.text
    .ok (t ++ " " ++ op.sign ++ "= " ++ v)
  | annotated target _ bare type value => do
    let t ← target.text
    let a ← type.text
    let v ← optionText " = " value
    let isName := match target with
      | .name _ => true
      | _ => false
    .ok ((if !bare && isName then "(" ++ t ++ ")" else t) ++ ": " ++ a ++ v)
  | delete targets => do
    let ts ← textsAt .test targets
    .ok ("del " ++ Text.join ", " ts)
  | pass => .ok "pass"
  | breakLoop => .ok "break"
  | continueLoop => .ok "continue"
  | returnValue value => do
    let v ← optionText " " value
    .ok ("return" ++ v)
  | raiseError error cause => do
    let e ← optionText " " error
    let c ← optionText " from " cause
    .ok ("raise" ++ e ++ c)
  | global names => .ok ("global " ++ Text.join ", " names)
  | nonlocal names => .ok ("nonlocal " ++ Text.join ", " names)
  | assert test message => do
    let t ← test.text
    let m ← optionText ", " message
    .ok ("assert " ++ t ++ m)
  | importNames names => .ok ("import " ++ Text.join ", " (names.map Alias.text))
  | importFrom module level names =>
    .ok ("from " ++ (List.replicate level 46 : Text) ++ module.getD [] ++ " import "
      ++ Text.join ", " (names.map Alias.text))

/-- The lines of decorators. -/
def decoratorLines (depth : Nat) (ds : List Decorator) : Lines :=
  ds.mapM fun d => do
    let t ← d.expr.text
    .ok (indentLine depth ("@" ++ t))

/-- The text of a context manager. -/
def WithItem.text (i : WithItem) : Rendering := do
  let c ← i.context.text
  let t ← optionText " as " i.target
  .ok (c ++ t)

/-- The documentation string that opens a block. -/
def docstring? : List Stmt → Option (Text × Bool)
  | .simple _ (.expression (.constant (.str t marked))) :: _ => some (t, marked)
  | _ => none

/-- A documentation string as written. -/
def docstringText (d : Text × Bool) : Text :=
  Text.when d.2 "u" ++ StringLiteral.write d.1 StringLiteral.Delimiter.multiline

mutual

/-- The lines of a statement; those of a declaration begin with an empty one. -/
def Stmt.lines (depth : Nat) : Stmt → Lines
  | .simple _ s => do
    let t ← s.text
    .ok [indentLine depth t]
  | .classDef _ name bases keywords decorators body => do
    let ds ← decoratorLines depth decorators
    let bs ← Expr.renderAll false bases
    let ks ← Expr.renderKeywords false keywords
    let args := bs ++ ks
    let b ← documentedLines (depth + 1) body
    .ok ([] :: ds ++ indentLine depth ("class " ++ name
      ++ Text.when (!args.isEmpty) ("(" ++ Text.join ", " args ++ ")") ++ ":") :: b)
  | .functionDef _ isAsync name params returns decorators body => do
    let ds ← decoratorLines depth decorators
    let ps ← Expr.renderParams false params
    let r ← optionText " -> " returns
    let b ← documentedLines (depth + 1) body
    .ok ([] :: ds ++ indentLine depth (Text.when isAsync "async " ++ Text.ofString "def " ++ name
      ++ "(" ++ ps ++ ")" ++ r ++ ":") :: b)
  | .ifElse _ test body orelse => do
    let t ← test.text
    let b ← blockLines (depth + 1) body
    let e ← elseLines depth orelse
    .ok (indentLine depth ("if " ++ t ++ ":") :: b ++ e)
  | .forLoop _ isAsync target iter body orelse => do
    let t ← target.render false .tuple
    let i ← iter.text
    let b ← blockLines (depth + 1) body
    let e ← sectionLines depth "else" orelse
    .ok (indentLine depth (Text.when isAsync "async " ++ "for " ++ t ++ " in " ++ i ++ ":") :: b ++ e)
  | .whileLoop _ test body orelse => do
    let t ← test.text
    let b ← blockLines (depth + 1) body
    let e ← sectionLines depth "else" orelse
    .ok (indentLine depth ("while " ++ t ++ ":") :: b ++ e)
  | .withBlock _ isAsync items body => do
    let is ← items.mapM WithItem.text
    let b ← blockLines (depth + 1) body
    .ok (indentLine depth (Text.when isAsync "async " ++ "with " ++ Text.join ", " is ++ ":") :: b)
  | .tryBlock _ grouped body handlers orelse final => do
    let b ← blockLines (depth + 1) body
    let hs ← handlerLines depth grouped handlers
    let e ← sectionLines depth "else" orelse
    let f ← sectionLines depth "finally" final
    .ok (indentLine depth "try:" :: b ++ hs ++ e ++ f)
  | .matchBlock _ subject cases => do
    let s ← subject.text
    let cs ← caseLines (depth + 1) cases
    .ok (indentLine depth ("match " ++ s ++ ":") :: cs)

/-- The lines of the statements of a block. -/
def blockLines (depth : Nat) : List Stmt → Lines
  | [] => .ok []
  | s :: rest => do
    let l ← s.lines depth
    let ls ← blockLines depth rest
    .ok (l ++ ls)

/-- The lines of a block that may open with a documentation string. -/
def documentedLines (depth : Nat) : List Stmt → Lines
  | [] => .ok []
  | s :: rest => do
    let l ← match docstring? [s] with
      | some d => .ok [indentLine depth (docstringText d)]
      | none => s.lines depth
    let ls ← blockLines depth rest
    .ok (l ++ ls)

/-- The lines of an `else` part; a single conditional in it becomes a further condition. -/
def elseLines (depth : Nat) : List Stmt → Lines
  | [] => .ok []
  | [.ifElse _ test body orelse] => do
    let t ← test.text
    let b ← blockLines (depth + 1) body
    let e ← elseLines depth orelse
    .ok (indentLine depth ("elif " ++ t ++ ":") :: b ++ e)
  | s :: rest => do
    let l ← s.lines (depth + 1)
    let ls ← blockLines (depth + 1) rest
    .ok (indentLine depth "else:" :: l ++ ls)

/-- The lines of a part under its own word, nothing if the part is empty. -/
def sectionLines (depth : Nat) (word : Text) : List Stmt → Lines
  | [] => .ok []
  | s :: rest => do
    let l ← s.lines (depth + 1)
    let ls ← blockLines (depth + 1) rest
    .ok (indentLine depth (word ++ ":") :: l ++ ls)

/-- The lines of handlers. -/
def handlerLines (depth : Nat) (grouped : Bool) : List Handler → Lines
  | [] => .ok []
  | .mk type name body :: rest => do
    let t ← optionText " " type
    let b ← blockLines (depth + 1) body
    let ls ← handlerLines depth grouped rest
    let n : Text := match name with
      | none => []
      | some n => " as " ++ n
    .ok (indentLine depth ("except" ++ Text.when grouped "*" ++ t ++ n ++ ":") :: b ++ ls)

/-- The lines of cases. -/
def caseLines (depth : Nat) : List MatchCase → Lines
  | [] => .ok []
  | .mk pattern guard body :: rest => do
    let p ← pattern.render .test
    let g ← optionText " if " guard
    let b ← blockLines (depth + 1) body
    let ls ← caseLines depth rest
    .ok (indentLine depth ("case " ++ p ++ g ++ ":") :: b ++ ls)

end

/-- The text of lines: the empty line before a declaration is dropped at the very beginning. -/
def textOfLines : List Text → Text
  | [] :: rest => Text.join [10] rest
  | lines => Text.join [10] lines

/-- The text of a statement, without a final line feed. -/
def Stmt.text (s : Stmt) : Rendering := do
  let ls ← s.lines 0
  .ok (textOfLines ls)

/-- The text of a module, without a final line feed. -/
def Module.text (m : Module) : Rendering := do
  let ls ← documentedLines 0 m.body
  .ok (textOfLines ls)

end FluentRecords
