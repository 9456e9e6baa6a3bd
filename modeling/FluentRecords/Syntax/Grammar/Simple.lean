import FluentRecords.Syntax.Grammar.Pattern

/-!
Statements of one line.
-/

namespace FluentRecords.Grammar

open FluentRecords.Parser

/-- The operator an augmented assignment applies. -/
def augmentedOps : OperatorLevel :=
  [("+=", .add), ("-=", .sub), ("*=", .mul), ("@=", .matMul), ("/=", .div), ("%=", .mod),
    ("&=", .bitAnd), ("|=", .bitOr), ("^=", .bitXor), ("<<=", .leftShift), (">>=", .rightShift),
    ("**=", .pow), ("//=", .floorDiv)]

section

variable (g : Rules)

/-- The right side of an assignment. -/
def assignedValue : Parser Parsed :=
  g .yieldExpression <|> g .starExpressions

/-- What follows the target of an annotation. -/
def annotationTail (target : Parsed) (bare : Bool) : Parser SimpleStmt := do
  let _ ← op ":"
  let type ← g .expression
  let value ← optional (do
    let _ ← op "="
    assignedValue g)
  pure (.annotated target.expr target.origin.place bare type.expr (value.map Parsed.expr))

/-- The target of an annotation that is not a bare name. -/
def annotationTarget : Parser Parsed :=
  between "(" (g .singleTarget) ")" <|> placeInside g

/-- The target of one assignment in a row. -/
def rowTarget : Parser Parsed := do
  let t ← g .starTargets
  let _ ← op "="
  pure t

/-- What an expression that may not be annotated is called. -/
def notAnnotatable (what : Text) : Text :=
  "only single target (not " ++ what ++ ") can be annotated"

/-- A list, a tuple, or either in parentheses. -/
def wrongAnnotationTarget : Nat → Parser Parsed
  | 0 => fail
  | fuel + 1 =>
    listDisplay g <|> tupleDisplay g <|> (do
      let _ ← op "("
      let a ← wrongAnnotationTarget fuel
      let _ ← op ")"
      pure a)

/-- The number of tokens, which bounds how deep parentheses are nested. -/
def tokenCount : Parser Nat :=
  fun env _ m => .ok env.tokens.tokens.size 0 m

/-- Mistakes in assignments. -/
def wrongAssignment : List (Parser Unit) := [
  do
    let a ← wrongAnnotationTarget g ((← tokenCount) + 1)
    let _ ← op ":"
    let _ ← g .expression
    raiseAt a.origin (notAnnotatable a.expr.describe),
  do
    let a ← g .starNamedExpression
    let _ ← op ","
    let _ ← many (g .starNamedExpressions)
    let _ ← op ":"
    let _ ← g .expression
    raiseAt a.origin (notAnnotatable "tuple"),
  do
    let a ← g .expression
    let _ ← op ":"
    let _ ← g .expression
    raiseAt a.origin "illegal target for annotation",
  do
    let _ ← many (rowTarget g)
    let a ← g .starExpressions
    let _ ← op "="
    raiseWrongTarget .assignment a,
  do
    let _ ← many (rowTarget g)
    let a ← g .yieldExpression
    let _ ← op "="
    raiseAt a.origin "assignment to yield expression not possible",
  do
    let a ← g .starExpressions
    let _ ← operatorOf augmentedOps
    let _ ← assignedValue g
    raiseAt a.origin ("'" ++ a.expr.describe
      ++ "' is an illegal expression for augmented assignment")]

/-- An assignment, with or without an annotation. -/
def assignment : Parser SimpleStmt :=
  (do
    let t ← nameTarget
    annotationTail g t true)
  <|> (do
    let t ← annotationTarget g
    annotationTail g t false)
  <|> (do
    let targets ← many1 (rowTarget g)
    let value ← assignedValue g
    notAhead (op "=")
    pure (.assign (targets.map Parsed.expr) value.expr))
  <|> commit (do
      let t ← g .singleTarget
      let bop ← operatorOf augmentedOps
      pure (t, bop))
    (fun (t, bop) => do
      let value ← assignedValue g
      pure (.augmented t.expr bop value.expr))
    (complain (wrongAssignment g))

/-- An expression as a statement. -/
def expressionStatement : Parser SimpleStmt := do
  let e ← g .starExpressions
  pure (.expression e.expr)

/-- A word alone. -/
def wordStatement (text : String) (s : SimpleStmt) : Parser SimpleStmt := do
  let _ ← word text
  pure s

/-- A `return` statement. -/
def returnStatement : Parser SimpleStmt := do
  let _ ← word "return"
  let value ← optional (g .starExpressions)
  pure (.returnValue (value.map Parsed.expr))

/-- A `raise` statement. -/
def raiseStatement : Parser SimpleStmt := do
  let _ ← word "raise"
  (do
    let error ← g .expression
    let cause ← optional (do
      let _ ← word "from"
      g .expression)
    pure (.raiseError (some error.expr) (cause.map Parsed.expr)))
  <|> pure (.raiseError none none)

/-- Names with commas between them. -/
def nameList : Parser (List Text) := do
  let ts ← sepBy1 name (op ",")
  pure (ts.map fun t => Text.ofString t.text)

/-- A `del` statement. -/
def deleteStatement : Parser SimpleStmt :=
  (do
    let _ ← word "del"
    let targets ← commaSeparated (g .deletionTarget)
    ahead ((do let _ ← op ";"; pure ()) <|> (do let _ ← kind .newline; pure ()))
    pure (.delete (targets.map Parsed.expr)))
  <|> complain [do
    let _ ← word "del"
    let a ← g .starExpressions
    raiseWrongTarget .deletion a]

/-- An `assert` statement. -/
def assertStatement : Parser SimpleStmt := do
  let _ ← word "assert"
  let test ← g .expression
  let message ← optional (do
    let _ ← op ","
    g .expression)
  pure (.assert test.expr (message.map Parsed.expr))

end

/-- A name with dots. -/
def modulePath : Parser Text := do
  let ts ← sepBy1 name (op ".")
  pure (Text.join "." (ts.map fun t => Text.ofString t.text))

/-- An imported name and what it is called. -/
def imported (p : Parser Text) : Parser Alias := do
  let n ← p
  let asName ← optional (do
    let _ ← word "as"
    name)
  pure ⟨n, asName.map fun t => Text.ofString t.text⟩

/-- A plain name. -/
def plainName : Parser Text :=
  (fun t => Text.ofString t.text) <$> name

/-- What is imported from a module. -/
def importedNames : Parser (List Alias) :=
  between "(" (commaSeparated (imported plainName)) ")"
  <|> (do
    let ns ← sepBy1 (imported plainName) (op ",")
    notAhead (op ",")
    pure ns)
  <|> (do
    let _ ← op "*"
    pure [⟨"*", none⟩])
  <|> complain [do
    let _ ← sepBy1 (imported plainName) (op ",")
    let _ ← op ","
    let _ ← kind .newline
    raiseHere "trailing comma not allowed without surrounding parentheses"]

/-- The number of leading dots. -/
def leadingDots : Parser Nat := do
  let ts ← many (op "." <|> op "...")
  pure (ts.flatMap fun t => t.text.toList).length

/-- An `import` statement. -/
def importStatement : Parser SimpleStmt :=
  (do
    let _ ← word "import"
    let ns ← sepBy1 (imported modulePath) (op ",")
    pure (.importNames ns))
  <|> (do
    let _ ← word "from"
    let level ← leadingDots
    let path ← optional modulePath
    if path.isNone && level = 0 then fail
    let _ ← word "import"
    let ns ← importedNames
    pure (.importFrom path level ns))

/-- A statement of one line, or a part of such a line. -/
def simpleStatement (g : Rules) : Parser Stmt := do
  let o ← here
  let s ← assignment g <|> expressionStatement g <|> returnStatement g <|> importStatement
    <|> raiseStatement g <|> wordStatement "pass" .pass <|> deleteStatement g
    <|> (do
      let e ← g .yieldExpression
      pure (.expression e.expr))
    <|> assertStatement g <|> wordStatement "break" .breakLoop
    <|> wordStatement "continue" .continueLoop
    <|> (do
      let _ ← word "global"
      .global <$> nameList)
    <|> (do
      let _ ← word "nonlocal"
      .nonlocal <$> nameList)
  pure (.simple o.place s)

/-- A line of statements. -/
def simpleStatements (g : Rules) : Parser (List Stmt) := do
  let ss ← sepBy1 (simpleStatement g) (op ";")
  let _ ← optional (op ";")
  let _ ← kind .newline
  pure ss

end FluentRecords.Grammar
