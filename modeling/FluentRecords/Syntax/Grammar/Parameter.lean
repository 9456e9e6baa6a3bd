import FluentRecords.Syntax.Grammar.Target

/-!
Parameters of functions and of lambda expressions. Both have the same grammar; they differ in what
closes the list and in whether a parameter may be annotated.
-/

namespace FluentRecords.Grammar

open FluentRecords.Parser

/-- A parameter while it is parsed. -/
structure ParsedParam where
  origin : Origin
  name : Text
  type : Option Expr

/-- A kind of parameter lists. -/
structure ParamForm where
  /-- What closes the list. -/
  closing : String
  /-- A parameter without its default. -/
  param : Parser ParsedParam
  /-- The annotated parameter that takes further positional arguments, where its annotation may be
  unpacked. -/
  unpackedRest : Parser ParsedParam
  /-- What is reported when the parameters are parenthesised. -/
  parenthesised : Text
  /-- Whether commas stand between parenthesised parameters. -/
  parenthesisedCommas : Bool

namespace ParamForm

variable (g : Rules) (f : ParamForm)

/-- A name and perhaps an annotation. -/
def annotatedParam (type : Parser (Option Expr)) : Parser ParsedParam := do
  let t ← name
  let a ← type
  pure ⟨t.origin, Text.ofString t.text, a⟩

/-- A comma, or the closing token ahead. -/
def separated : Parser Unit :=
  (do let _ ← op ","; pure ()) <|> ahead (op f.closing)

/-- A default value. -/
def default : Parser Expr :=
  (do
    let _ ← op "="
    let e ← g .expression
    pure e.expr)
  <|> complain [do
    let t ← op "="
    ahead (op ")" <|> op ",")
    raiseAtToken t "expected default value expression"]

/-- A finished parameter. -/
def finished (p : ParsedParam) (dflt : Option Expr) : Param :=
  .mk p.name p.type dflt

/-- A parameter without a default, with what separates it. -/
def plainParam : Parser ParsedParam := do
  let p ← f.param
  f.separated
  pure p

/-- A parameter without a default. -/
def withoutDefault : Parser Param :=
  (finished · none) <$> f.plainParam

/-- A parameter with a default. -/
def withDefault : Parser Param := do
  let p ← f.param
  let e ← default g
  f.separated
  pure (finished p (some e))

/-- A parameter with or without a default. -/
def maybeDefault : Parser Param := do
  let p ← f.param
  let e ← optional (default g)
  f.separated
  pure (finished p e)

/-- The mark that ends the parameters given by position only. -/
def slash : Parser Unit := do
  let _ ← op "/"
  f.separated

/-- Parameters given by position only, none with a default. -/
def positional : Parser (List Param) := do
  let ps ← many1 f.withoutDefault
  f.slash
  pure ps

/-- Parameters given by position only, the last of them with defaults. -/
def positionalDefaults : Parser (List Param) := do
  let ps ← many f.withoutDefault
  let ds ← many1 (f.withDefault g)
  f.slash
  pure (ps ++ ds)

/-- Mistakes in the parameter that takes further keywords. -/
def wrongKeywordRest : List (Parser Unit) := [
  do
    let _ ← op "**"
    let _ ← f.param
    let t ← op "="
    raiseAtToken t "var-keyword argument cannot have default value",
  do
    let _ ← op "**"
    let _ ← f.param
    let _ ← op ","
    let p ← f.param
    raiseAt p.origin "arguments cannot follow var-keyword argument",
  do
    let _ ← op "**"
    let _ ← f.param
    let _ ← op ","
    let t ← satisfy fun t => t.kind == .operator && ["*", "**", "/"].elem t.text
    raiseAtToken t "arguments cannot follow var-keyword argument"]

/-- The parameter that takes further keywords. -/
def keywordRest : Parser Param :=
  complain f.wrongKeywordRest <|> (do
    let _ ← op "**"
    f.withoutDefault)

/-- What follows a star: a comma or a parameter. -/
def afterStar : Parser Unit :=
  (do let _ ← f.withoutDefault; pure ()) <|> (do let _ ← op ","; pure ())

/-- Mistakes after a star. -/
def wrongStar : List (Parser Unit) := [
  do
    let star ← op "*"
    (do let _ ← op f.closing; pure ()) <|> (do
      let _ ← op ","
      let _ ← op f.closing <|> op "**"
      pure ())
    if f.closing == ")" then raiseAtToken star "named arguments must follow bare *"
    else raiseHere "named arguments must follow bare *",
  do
    let _ ← op "*"
    let _ ← f.param
    let t ← op "="
    raiseAtToken t "var-positional argument cannot have default value",
  do
    let _ ← op "*"
    f.afterStar
    let _ ← many (f.maybeDefault g)
    let star ← op "*"
    f.afterStar
    raiseAtToken star "* argument may appear only once"]

/-- The parameters from a star on. -/
structure Tail where
  rest : Option Param
  keyword : List Param
  keywordRest : Option Param

/-- A star with a parameter that takes further positional arguments. -/
def restParam (p : Parser ParsedParam) : Parser Tail := do
  let _ ← op "*"
  let r ← p
  let ks ← many (f.maybeDefault g)
  let kr ← optional f.keywordRest
  pure ⟨some (finished r none), ks, kr⟩

/-- The parameters from a star on, or the one that takes further keywords alone. -/
def tail : Parser Tail :=
  complain (f.wrongStar g) <|> f.restParam g f.plainParam
    <|> f.restParam g (do
      let p ← f.unpackedRest
      f.separated
      pure p)
    <|> (do
      let _ ← op "*"
      let _ ← op ","
      let ks ← many1 (f.maybeDefault g)
      let kr ← optional f.keywordRest
      pure ⟨none, ks, kr⟩)
    <|> (do
      let kr ← f.keywordRest
      pure ⟨none, [], some kr⟩)

/-- Parameters put together. -/
def assemble (positional regular : List Param) (tail : Option Tail) : Params :=
  match tail with
  | some t => .mk positional regular t.rest t.keyword t.keywordRest
  | none => .mk positional regular none [] none

/-- A list of parameters that is not empty. -/
def params : Parser Params :=
  (do
    let ps ← f.positional
    let rs ← many f.withoutDefault
    let ds ← many (f.withDefault g)
    let t ← optional (f.tail g)
    pure (assemble ps (rs ++ ds) t))
  <|> (do
    let ps ← f.positionalDefaults g
    let ds ← many (f.withDefault g)
    let t ← optional (f.tail g)
    pure (assemble ps ds t))
  <|> (do
    let rs ← many1 f.withoutDefault
    let ds ← many (f.withDefault g)
    let t ← optional (f.tail g)
    pure (assemble [] (rs ++ ds) t))
  <|> (do
    let ds ← many1 (f.withDefault g)
    let t ← optional (f.tail g)
    pure (assemble [] ds t))
  <|> (do
    let t ← f.tail g
    pure (assemble [] [] (some t)))

/-- Parameters with defaults before one without. -/
def defaultsBefore : Parser Unit :=
  (do let _ ← f.positionalDefaults g; pure ())
    <|> (do let _ ← many1 (f.withDefault g); pure ())

/-- Mistakes in the order of the parameters. -/
def wrongOrder : List (Parser Unit) := [
  do
    let _ ← many f.withoutDefault
    f.defaultsBefore g
    let p ← f.plainParam
    raiseAt p.origin "non-default argument follows default argument",
  do
    let _ ← many f.withoutDefault
    let t ← op "("
    if f.parenthesisedCommas then
      let _ ← sepBy1 f.param (op ",")
    else
      let _ ← many1 f.withoutDefault
    let _ ← optional (op ",")
    let _ ← op ")"
    raiseAtToken t f.parenthesised,
  do
    let t ← op "/"
    let _ ← op ","
    raiseAtToken t "at least one argument must precede /",
  do
    let _ ← f.positional <|> f.positionalDefaults g
    let _ ← many (f.maybeDefault g)
    let t ← op "/"
    raiseAtToken t "/ may appear only once",
  do
    let _ ← optional (f.positional <|> f.positionalDefaults g)
    let _ ← many (f.maybeDefault g)
    let _ ← op "*"
    (do let _ ← op ","; pure ()) <|> (do let _ ← f.withoutDefault; pure ())
    let _ ← many (f.maybeDefault g)
    let t ← op "/"
    raiseAtToken t "/ must be ahead of *",
  do
    let _ ← many1 (f.maybeDefault g)
    let _ ← op "/"
    let t ← op "*"
    raiseAtToken t "expected comma between / and *"]

/-- A list of parameters that is not empty, with its mistakes. -/
def checked : Parser Params :=
  complain (f.wrongOrder g) <|> f.params g

end ParamForm

section

variable (g : Rules)

/-- The parameters of lambda expressions. -/
def lambdaForm : ParamForm where
  closing := ":"
  param := ParamForm.annotatedParam (pure none)
  unpackedRest := fail
  parenthesised := "Lambda expression parameters cannot be parenthesized"
  parenthesisedCommas := true

/-- The parameters of functions. -/
def functionForm : ParamForm where
  closing := ")"
  param := ParamForm.annotatedParam (optional (do
    let _ ← op ":"
    let e ← g .expression
    pure e.expr))
  unpackedRest := ParamForm.annotatedParam (do
    let _ ← op ":"
    let e ← g .starExpression
    pure (some e.expr))
  parenthesised := "Function parameters cannot be parenthesized"
  parenthesisedCommas := false

end

end FluentRecords.Grammar
