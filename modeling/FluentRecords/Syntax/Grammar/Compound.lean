import FluentRecords.Syntax.Grammar.Simple

/-!
Statements with blocks.
-/

namespace FluentRecords.Grammar

open FluentRecords.Parser

section

variable (g : Rules)

/-- The complaint about a block that is missing after what begins with a token. -/
def blockMissing (what : Text) (t : Token) : Parser Unit := do
  let _ ← kind .newline
  notAhead (kind .indent)
  raiseKindHere .indentation
    ("expected an indented block after " ++ what ++ " on line " ++ Text.ofNat t.place.line)

/-- The complaint about a colon that is missing at the end of a line. -/
def colonMissing : Parser Unit := do
  let _ ← kind .newline
  raiseHere "expected ':'"

/-- Mistakes after the head of a statement: no colon, or no block. -/
def wrongBody (what : Text) (head : Parser Token) : List (Parser Unit) := [
  do
    let _ ← head
    colonMissing,
  do
    let t ← head
    let _ ← op ":"
    blockMissing what t]

/-- A block: indented lines, or the rest of the line. -/
def block : Parser (List Stmt) := memoBlock
  ((do
    let _ ← kind .newline
    let _ ← kind .indent
    let ss ← g .statements
    let _ ← kind .dedent
    pure ss)
  <|> simpleStatements g
  <|> complain [do
    let _ ← kind .newline
    notAhead (kind .indent)
    raiseKindHere .indentation "expected an indented block"])

/-- A colon and a block. -/
def body : Parser (List Stmt) := do
  let _ ← op ":"
  g .block

/-- A demanded colon and a block. -/
def demandedBody : Parser (List Stmt) := do
  let _ ← demand ":"
  g .block

/-- A word with a demanded colon and a block; `what` names it where the block is missing. -/
def wordBlock (text : String) : Parser (List Stmt) :=
  complain [do
    let t ← word text
    let _ ← op ":"
    blockMissing ("'" ++ Text.ofString text ++ "' statement") t]
  <|> (do
    let _ ← word text
    demandedBody g)

/-- The block after `else`. -/
def elseBlock : Parser (List Stmt) :=
  wordBlock g "else"

/-- The block after `finally`. -/
def finallyBlock : Parser (List Stmt) :=
  wordBlock g "finally"

/-- A condition after a word. -/
def conditionHead (text : String) : Parser Token := do
  let t ← word text
  let _ ← g .namedExpression
  pure t

/-- The alternative of a condition. -/
def orelse : Parser (List Stmt) :=
  (do
    let s ← g .elif
    pure [s])
  <|> (fun b => b.getD []) <$> optional (elseBlock g)

/-- A condition with its blocks, introduced by `if` or `elif`. -/
def conditionBlock (text : String) : Parser Stmt :=
  complain (wrongBody ("'" ++ Text.ofString text ++ "' statement") (conditionHead g text))
  <|> (do
    let t ← word text
    let test ← g .namedExpression
    let b ← body g
    let other ← orelse g
    pure (.ifElse t.place test.expr b other))

/-- A `while` loop. -/
def whileStatement : Parser Stmt :=
  complain (wrongBody "'while' statement" (conditionHead g "while"))
  <|> (do
    let t ← word "while"
    let test ← g .namedExpression
    let b ← body g
    let other ← optional (elseBlock g)
    pure (.whileLoop t.place test.expr b (other.getD [])))

/-- The head of a loop over a value. -/
def forHead : Parser Token := do
  let _ ← optional (word "async")
  let t ← word "for"
  let _ ← g .starTargets
  let _ ← word "in"
  let _ ← g .starExpressions
  pure t

/-- A loop over a value. -/
def forStatement : Parser Stmt :=
  complain (wrongBody "'for' statement" (forHead g))
  <|> commit (loopHead g)
    (fun (o, isAsync, target) => do
      let iter ← g .starExpressions
      let b ← body g
      let other ← optional (elseBlock g)
      pure (.forLoop o.place isAsync target.expr iter.expr b (other.getD [])))
    (complain [wrongLoopTarget g])

/-- A context manager and what its value is bound to. -/
def withItem : Parser WithItem :=
  (do
    let e ← g .expression
    let _ ← word "as"
    let t ← g .starTarget
    ahead (op "," <|> op ")" <|> op ":")
    pure ⟨e.expr, some t.expr⟩)
  <|> complain [do
    let _ ← g .expression
    let _ ← word "as"
    let a ← g .expression
    ahead (op "," <|> op ")" <|> op ":")
    raiseWrongTarget .assignment a]
  <|> (do
    let e ← g .expression
    pure ⟨e.expr, none⟩)

/-- A context manager where a mistake is looked for. -/
def looseItem (p : Parser Parsed) : Parser Unit := do
  let _ ← p
  let _ ← optional (do
    let _ ← word "as"
    g .starTarget)

/-- The head of a `with` statement without parentheses. -/
def withHead : Parser Token := do
  let _ ← optional (word "async")
  let t ← word "with"
  let _ ← sepBy1 (looseItem g (g .expression)) (op ",")
  pure t

/-- The head of a `with` statement with parentheses. -/
def roundWithHead : Parser Token := do
  let _ ← optional (word "async")
  let t ← word "with"
  let _ ← between "(" (commaSeparated (looseItem g (expressions g))) ")"
  pure t

/-- The start of a `with` statement. -/
def withStart : Parser (Origin × Bool) := do
  let o ← here
  let isAsync ← optional (word "async")
  let _ ← word "with"
  pure (o, isAsync.isSome)

/-- A `with` statement. -/
def withStatement : Parser Stmt :=
  complain [
    do
      let t ← withHead g
      let _ ← op ":"
      blockMissing "'with' statement" t,
    do
      let t ← roundWithHead g
      let _ ← op ":"
      blockMissing "'with' statement" t]
  <|> (do
    let (o, isAsync) ← withStart
    let items ← between "(" (commaSeparated (withItem g)) ")"
    let b ← body g
    pure (.withBlock o.place isAsync items b))
  <|> (do
    let (o, isAsync) ← withStart
    let items ← sepBy1 (withItem g) (op ",")
    let b ← body g
    pure (.withBlock o.place isAsync items b))
  <|> complain [
    do
      let _ ← withHead g
      colonMissing,
    do
      let _ ← roundWithHead g
      colonMissing]

/-- The name that a handler binds. -/
def handlerName : Parser (Option Text) :=
  optional (do
    let _ ← word "as"
    plainName)

/-- The start of a handler, with its star where errors are handled in groups. -/
def handlerStart (grouped : Bool) : Parser Token := do
  let t ← word "except"
  if grouped then
    let _ ← op "*"
  pure t

/-- What a handler is called. -/
def handlerWhat (grouped : Bool) : Text :=
  if grouped then "'except*' statement" else "'except' statement"

/-- Handlers without a block. -/
def wrongHandlerBlock (grouped : Bool) : List (Parser Unit) := [
  do
    let t ← handlerStart grouped
    let _ ← g .expression
    let _ ← handlerName
    let _ ← op ":"
    blockMissing (handlerWhat grouped) t,
  do
    if grouped then fail
    let t ← handlerStart grouped
    let _ ← op ":"
    blockMissing (handlerWhat grouped) t]

/-- Mistakes in the head of a handler. -/
def wrongHandler : List (Parser Unit) := [
  do
    let _ ← word "except"
    let _ ← optional (op "*")
    let a ← g .expression
    let _ ← op ","
    let _ ← expressions g
    let _ ← handlerName
    let _ ← op ":"
    raiseAt a.origin "multiple exception types must be parenthesized",
  do
    let _ ← word "except"
    let _ ← optional (op "*")
    let _ ← g .expression
    let _ ← handlerName
    colonMissing,
  do
    let _ ← word "except"
    colonMissing,
  do
    let _ ← word "except"
    let _ ← op "*"
    (do let _ ← kind .newline; pure ()) <|> (do let _ ← op ":"; pure ())
    raiseHere "expected one or more exception types"]

/-- A handler. -/
def handler (grouped : Bool) : Parser Handler :=
  complain (wrongHandlerBlock g grouped)
  <|> (do
    let _ ← handlerStart grouped
    let type ← g .expression
    let n ← handlerName
    let b ← body g
    pure (.mk (some type.expr) n b))
  <|> (do
    if grouped then fail
    let _ ← handlerStart grouped
    let b ← body g
    pure (.mk none none b))
  <|> complain (wrongHandler g)

/-- Mistakes in `try` statements. -/
def wrongTry : List (Parser Unit) := [
  do
    let t ← word "try"
    let _ ← op ":"
    blockMissing "'try' statement" t,
  do
    let _ ← word "try"
    let _ ← body g
    notAhead (word "except" <|> word "finally")
    raiseHere "expected 'except' or 'finally' block",
  do
    let _ ← word "try"
    let _ ← op ":"
    let _ ← many (g .block)
    (do
      let _ ← many1 (handler g false)
      let _ ← many1 (handler g true)
      pure ())
    <|> (do
      let _ ← many1 (handler g true)
      let _ ← many1 (handler g false)
      pure ())
    let _ ← many (g .block)
    raiseHere "cannot have both 'except' and 'except*' on the same 'try'"]

/-- The handlers of a `try` statement and what follows them. -/
def handlers (grouped : Bool) : Parser (Bool × List Handler × List Stmt × List Stmt) := do
  let hs ← many1 (handler g grouped)
  let other ← optional (elseBlock g)
  let final ← optional (finallyBlock g)
  pure (grouped, hs, other.getD [], final.getD [])

/-- A `try` statement. -/
def tryStatement : Parser Stmt :=
  complain (wrongTry g)
  <|> (do
    let t ← word "try"
    let b ← demandedBody g
    let (grouped, hs, other, final) ←
      (do
        let final ← finallyBlock g
        pure (false, [], [], final))
      <|> handlers g false <|> handlers g true
    pure (.tryBlock t.place grouped b hs other final))

/-- The head of a class declaration. -/
def classHead : Parser (Token × Token × Option ParsedArguments) := do
  let t ← word "class"
  let n ← name
  let a ← optional (between "(" (optional (g .arguments)) ")")
  pure (t, n, a.join)

/-- A class declaration after its decorators. -/
def classStatement (decorators : List Decorator) : Parser Stmt :=
  complain (wrongBody "class definition" (do
    let (t, _) ← classHead g
    pure t))
  <|> (do
    let (t, n, a) ← classHead g
    let b ← body g
    let (bases, keywords) := match a with
      | some a => (a.args.map Parsed.expr, a.keywords)
      | none => ([], [])
    pure (.classDef t.place (Text.ofString n.text) bases keywords decorators b))

/-- The parameters of a function. -/
def functionParams : Parser (Option Params) :=
  optional ((functionForm g).checked g)

/-- The result of a function. -/
def functionResult : Parser (Option Expr) :=
  optional (do
    let _ ← op "->"
    let e ← g .expression
    pure e.expr)

/-- A function declaration after its decorators. -/
def functionStatement (decorators : List Decorator) : Parser Stmt :=
  complain [do
    let _ ← optional (word "async")
    let t ← word "def"
    let _ ← name
    let _ ← between "(" (functionParams g) ")"
    let _ ← functionResult g
    let _ ← op ":"
    blockMissing "function definition" t]
  <|> (do
    let o ← here
    let isAsync ← optional (word "async")
    let _ ← word "def"
    let n ← name
    let _ ← demand "("
    let ps ← functionParams g
    let _ ← op ")"
    let result ← functionResult g
    let b ← demandedBody g
    pure (.functionDef o.place isAsync.isSome (Text.ofString n.text) (ps.getD .empty) result
      decorators b))

/-- The decorators of a declaration. -/
def decorators : Parser (List Decorator) :=
  many1 (do
    let _ ← op "@"
    let e ← afresh (g .namedExpression)
    let _ ← kind .newline
    pure ⟨e.origin.place, e.expr⟩)

/-- A declaration, with or without decorators. -/
def decorated (p : List Decorator → Parser Stmt) : Parser Stmt :=
  (do
    let ds ← decorators g
    p ds)
  <|> p []

/-- The subject of a `match` statement. -/
def subject : Parser Parsed :=
  (do
    let o ← here
    let first ← g .starNamedExpression
    let _ ← op ","
    let rest ← optional (g .starNamedExpressions)
    pure (.tuple o (first :: rest.getD [])))
  <|> g .namedExpression

/-- The condition of a case. -/
def guard : Parser (Option Expr) :=
  optional (do
    let _ ← word "if"
    let e ← g .namedExpression
    pure e.expr)

/-- The head of a case. -/
def caseHead : Parser (Token × Pattern × Option Expr) := do
  let t ← softWord "case"
  let p ← openPattern g
  let cond ← guard g
  pure (t, p.pattern, cond)

/-- A case. -/
def matchCase : Parser MatchCase :=
  complain (wrongBody "'case' statement" (do
    let (t, _) ← caseHead g
    pure t))
  <|> (do
    let (_, p, cond) ← caseHead g
    let b ← body g
    pure (.mk p cond b))

/-- A `match` statement. -/
def matchStatement : Parser Stmt :=
  (do
    let t ← softWord "match"
    let e ← subject g
    let _ ← op ":"
    let _ ← kind .newline
    let _ ← kind .indent
    let cases ← many1 (matchCase g)
    let _ ← kind .dedent
    pure (.matchBlock t.place e.expr cases))
  <|> complain (wrongBody "'match' statement" (do
    let t ← softWord "match"
    let _ ← subject g
    pure t))

/-- A statement with blocks. -/
def compoundStatement : Parser Stmt := do
  let t ← peek
  let among (ws : List String) : Bool := t.kind == .keyword && ws.elem t.text
  let declares := t.kind == .operator && t.text == "@"
  (if declares || among ["def", "async"] then decorated g (functionStatement g) else fail)
    <|> (if among ["if"] then conditionBlock g "if" else fail)
    <|> (if declares || among ["class"] then decorated g (classStatement g) else fail)
    <|> (if among ["with", "async"] then withStatement g else fail)
    <|> (if among ["for", "async"] then forStatement g else fail)
    <|> (if among ["try"] then tryStatement g else fail)
    <|> (if among ["while"] then whileStatement g else fail)
    <|> matchStatement g

/-- The statements that a line or a statement with blocks contributes. -/
def statement : Parser (List Stmt) :=
  (do
    let s ← compoundStatement g
    pure [s])
  <|> simpleStatements g

/-- One statement or more. -/
def statements : Parser (List Stmt) := do
  let ss ← many1 (afresh (statement g))
  pure ss.flatten

end

end FluentRecords.Grammar
