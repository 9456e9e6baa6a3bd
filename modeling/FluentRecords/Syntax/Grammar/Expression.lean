import FluentRecords.Syntax.Grammar.Parameter

/-!
Whole expressions: conditional and lambda expressions, named and starred ones, `yield`, subscripts, the
clauses of comprehensions, and the arguments of calls.
-/

namespace FluentRecords.Grammar

open FluentRecords.Parser

section

variable (g : Rules)

/-- A lambda expression. -/
def lambda : Parser Parsed := do
  let t ← word "lambda"
  let ps ← optional (g .lambdaParams)
  let _ ← op ":"
  let body ← g .expression
  pure (.leaf t.origin (.lambda (ps.getD .empty) body.expr))

/-- A conditional expression, a disjunction or a lambda expression. -/
def plainExpression : Parser Parsed :=
  (do
    let o ← here
    let a ← g .disjunction
    (do
      let _ ← word "if"
      let b ← g .disjunction
      let _ ← word "else"
      let c ← g .expression
      pure (.leaf o (.conditional b.expr a.expr c.expr)))
    <|> pure a)
  <|> lambda g

/-- The names of statements that became functions. -/
def isFormerStatement : Expr → Bool
  | .name n => n = Text.ofString "print" || n = Text.ofString "exec"
  | _ => false

/-- A name directly before a string, or a word that is reserved only in its place. -/
def proneToJoin : Parser Unit :=
  (do
    let _ ← name
    let _ ← kind .string
    pure ())
  <|> (do
    let _ ← satisfy fun t => t.kind == .name && ["_", "case", "match"].elem t.text
    pure ())

/-- Expressions side by side, and a condition without its alternative. -/
def wrongExpression : List (Parser Unit) := [
  do
    notAhead proneToJoin
    let a ← g .disjunction
    let _ ← quietly (plainExpression g)
    if isFormerStatement a.expr then pure ()
    else match ← previous? with
      | some t =>
        if t.level = 0 then pure ()
        else raiseAt a.origin "invalid syntax. Perhaps you forgot a comma?"
      | none => pure (),
  do
    let a ← g .disjunction
    let _ ← word "if"
    let _ ← g .disjunction
    notAhead ((do let _ ← word "else"; pure ()) <|> (do let _ ← op ":"; pure ()))
    raiseAt a.origin "expected 'else' after 'if' expression"]

/-- A former statement used as one. -/
def formerStatement : Parser Unit := do
  let t ← name
  notAhead (op "(")
  let _ ← g .starExpressions
  if isFormerStatement (.name (Text.ofString t.text)) then
    raiseAtToken t ("Missing parentheses in call to '" ++ Text.ofString t.text ++ "'. Did you mean "
      ++ Text.ofString t.text ++ "(...)?")
  else pure ()

/-- An expression. -/
def expression : Parser Parsed := memo .expression
  (complain (wrongExpression g) <|> complain [formerStatement g] <|> plainExpression g)

/-- An expression that cannot be given a name. -/
def wrongName (a : Parsed) : Text :=
  "cannot use assignment expressions with " ++ a.expr.describe

/-- An equals sign alone. -/
def notAssigned : Parser Unit :=
  notAhead (op "=" <|> op ":=")

/-- A display, a generator expression or a constant, which other rules report. -/
def reportedElsewhere : Parser Unit :=
  (do let _ ← listDisplay g <|> tupleDisplay g <|> generator g; pure ())
    <|> (do let _ ← word "True" <|> word "None" <|> word "False"; pure ())

/-- Mistakes where a value is named. -/
def wrongNamedExpression : Parser Parsed := memo .wrongNamedExpression (complain [
  do
    let a ← g .expression
    let _ ← op ":="
    let _ ← g .expression
    raiseAt a.origin (wrongName a),
  do
    let t ← name
    let _ ← op "="
    let _ ← g .bitwiseOr
    notAssigned
    raiseAtToken t "invalid syntax. Maybe you meant '==' or ':=' instead of '='?",
  do
    notAhead (reportedElsewhere g)
    let a ← g .bitwiseOr
    let _ ← op "="
    let _ ← g .bitwiseOr
    notAssigned
    raiseAt a.origin ("cannot assign to " ++ a.expr.describe
      ++ " here. Maybe you meant '==' instead of '='?")])

/-- An expression that may name its value. -/
def namedExpression : Parser Parsed :=
  assignmentExpression g <|> wrongNamedExpression g <|> unnamed g

/-- A starred value. -/
def starredValue : Parser Parsed := do
  let star ← op "*"
  let e ← g .bitwiseOr
  pure (.starred star.origin e)

/-- An expression, which may be starred. -/
def starExpression : Parser Parsed :=
  memo .starExpression (starredValue g <|> g .expression)

/-- An expression that may name its value or be starred. -/
def starNamedExpression : Parser Parsed :=
  starredValue g <|> g .namedExpression

/-- One element, or a tuple of several; a comma at the end makes a tuple as well. -/
def tupleOr (elem : Parser Parsed) : Parser Parsed := do
  let o ← here
  let first ← elem
  let rest ← many (do
    let _ ← op ","
    elem)
  let comma ← optional (op ",")
  if rest.isEmpty && comma.isNone then pure first else pure (.tuple o (first :: rest))

/-- Expressions, which may be starred. -/
def starExpressions : Parser Parsed :=
  tupleOr (g .starExpression)

/-- Expressions without stars. -/
def expressions : Parser Parsed :=
  tupleOr (g .expression)

/-- A `yield` expression. -/
def yieldExpression : Parser Parsed := do
  let t ← word "yield"
  (do
    let _ ← word "from"
    let e ← g .expression
    pure (.leaf t.origin (.yieldFrom e.expr)))
  <|> (do
    let e ← optional (g .starExpressions)
    pure (.leaf t.origin (.yield (e.map Parsed.expr))))

/-- An expression or a slice. -/
def slice : Parser Parsed :=
  (do
    let o ← here
    let lower ← optional (g .expression)
    let _ ← op ":"
    let upper ← optional (g .expression)
    let step ← optional (do
      let _ ← op ":"
      optional (g .expression))
    pure (.leaf o (.slice (lower.map Parsed.expr) (upper.map Parsed.expr)
      (step.join.map Parsed.expr))))
  <|> g .namedExpression

/-- The index of a subscript; several ones are a tuple. -/
def slices : Parser Parsed :=
  (do
    let e ← slice g
    notAhead (op ",")
    pure e)
  <|> (do
    let o ← here
    let elems ← commaSeparated (slice g <|> starredExpression g)
    pure (.tuple o elems))

/-- A target of a loop that cannot be one. -/
def wrongLoopTarget : Parser Unit := do
  let _ ← optional (word "async")
  let _ ← word "for"
  let a ← g .starExpressions
  raiseWrongTarget .loop a

/-- The start of a loop up to its `in`. -/
def loopHead : Parser (Origin × Bool × Parsed) := do
  let o ← here
  let isAsync ← optional (word "async")
  let _ ← word "for"
  let target ← g .starTargets
  let _ ← word "in"
  pure (o, isAsync.isSome, target)

/-- A clause of a comprehension. -/
def clause : Parser Clause :=
  commit (loopHead g)
    (fun (_, isAsync, target) => do
      let iter ← g .disjunction
      let conditions ← many (do
        let _ ← word "if"
        g .disjunction)
      pure (.mk isAsync target.expr iter.expr (conditions.map Parsed.expr)))
    (complain [wrongLoopTarget g])

/-- The clauses of a comprehension. -/
def clauses : Parser (List Clause) :=
  many1 (clause g)

/-- A keyword argument, or an unpacked one. -/
inductive Argument
  | keyword (k : Keyword)
  | starred (e : Parsed)

/-- Mistakes in a keyword argument. -/
def wrongKeyword : List (Parser Unit) := [
  do
    let t ← word "True" <|> word "False" <|> word "None"
    let _ ← op "="
    raiseAtToken t ("cannot assign to " ++ Text.ofString t.text),
  do
    let t ← name
    let _ ← op "="
    let _ ← g .expression
    let _ ← g .clauses
    raiseAtToken t "invalid syntax. Maybe you meant '==' or ':=' instead of '='?",
  do
    notAhead (do
      let _ ← name
      op "=")
    let a ← g .expression
    let _ ← op "="
    raiseAt a.origin "expression cannot contain assignment, perhaps you meant \"==\"?"]

/-- A keyword argument with a name. -/
def keywordArgument : Parser Argument := do
  let t ← name
  let _ ← op "="
  let e ← g .expression
  pure (.keyword (.mk (some (Text.ofString t.text)) e.origin.place e.expr))

/-- A keyword argument, or unpacked values. -/
def keywordOrStarred : Parser Argument :=
  complain (wrongKeyword g) <|> keywordArgument g <|> .starred <$> starredExpression g

/-- A keyword argument, or an unpacked mapping. -/
def keywordOrMapping : Parser Argument :=
  complain (wrongKeyword g) <|> keywordArgument g <|> (do
    let _ ← op "**"
    let e ← g .expression
    pure (.keyword (.mk none e.origin.place e.expr)))

/-- The keyword arguments of a call. -/
def keywordArguments : Parser (List Argument) :=
  (do
    let as ← sepBy1 (keywordOrStarred g) (op ",")
    let _ ← op ","
    let bs ← sepBy1 (keywordOrMapping g) (op ",")
    pure (as ++ bs))
  <|> sepBy1 (keywordOrStarred g) (op ",")
  <|> sepBy1 (keywordOrMapping g) (op ",")

/-- An argument given by position. -/
def positionalArgument : Parser Parsed :=
  starredExpression g <|> (do
    let e ← assignmentExpression g <|> unnamed g
    notAhead (op "=")
    pure e)

/-- Arguments sorted into positional and keyword ones. -/
def ParsedArguments.ofLists (o : Origin) (args : List Parsed) (more : List Argument) :
    ParsedArguments where
  origin := o
  args := args ++ more.filterMap fun
    | .starred e => some e
    | .keyword _ => none
  keywords := more.filterMap fun
    | .keyword k => some k
    | .starred _ => none

/-- Arguments, positional ones first. -/
def someArguments : Parser ParsedArguments :=
  (do
    let o ← here
    let args ← sepBy1 (positionalArgument g) (op ",")
    let more ← optional (do
      let _ ← op ","
      keywordArguments g)
    pure (ParsedArguments.ofLists o args (more.getD [])))
  <|> (do
    let o ← here
    let more ← keywordArguments g
    pure (ParsedArguments.ofLists o [] more))

/-- A generator expression without its parentheses. -/
def bareGenerator : Parser Parsed := do
  let e ← g .expression
  let _ ← g .clauses
  pure e

/-- The complaint about such a generator expression. -/
def mustBeParenthesized : Text :=
  "Generator expression must be parenthesized"

/-- Mistakes in arguments. -/
def wrongArguments : List (Parser Unit) := [
  do
    let a ← someArguments g
    let _ ← op ","
    let _ ← op "*"
    raiseAt a.origin "iterable argument unpacking follows keyword argument unpacking",
  do
    let e ← bareGenerator g
    let _ ← op ","
    let _ ← optional ((do let _ ← someArguments g; pure ())
      <|> (do let _ ← bareGenerator g; pure ()))
    raiseAt e.origin mustBeParenthesized,
  do
    let t ← name
    let _ ← op "="
    let _ ← bareGenerator g
    raiseAtToken t "invalid syntax. Maybe you meant '==' or ':=' instead of '='?",
  do
    let a ← someArguments g
    let _ ← g .clauses
    match a.args with
    | _ :: second :: rest => raiseAt ((second :: rest).getLastD second).origin mustBeParenthesized
    | _ => pure (),
  do
    let _ ← someArguments g
    let _ ← op ","
    let e ← bareGenerator g
    raiseAt e.origin mustBeParenthesized,
  do
    let a ← someArguments g
    let _ ← op ","
    let _ ← someArguments g
    raiseHere (if a.keywords.any (·.name.isNone)
      then "positional argument follows keyword argument unpacking"
      else "positional argument follows keyword argument")]

/-- The arguments of a call. -/
def arguments : Parser ParsedArguments :=
  (do
    let a ← someArguments g
    let _ ← optional (op ",")
    ahead (op ")")
    pure a)
  <|> complain (wrongArguments g)

end

end FluentRecords.Grammar
