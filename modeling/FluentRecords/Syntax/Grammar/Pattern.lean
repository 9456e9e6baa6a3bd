import FluentRecords.Syntax.Grammar.Expression

/-!
Patterns of `match` statements.
-/

namespace FluentRecords.Grammar

open FluentRecords.Parser

section

variable (g : Rules)

/-- A number, perhaps negative. -/
def signedNumber : Parser Parsed :=
  number <|> (do
    let t ← op "-"
    let n ← number
    pure (.leaf t.origin (.unary .minus n.expr)))

/-- Whether a value is an imaginary number. -/
def isImaginary (e : Parsed) : Bool :=
  match e.expr with
  | .constant (.imaginary _) => true
  | .unary _ (.constant (.imaginary _)) => true
  | _ => false

/-- A real number, perhaps negative. -/
def signedReal : Parser Parsed := do
  let minus ← optional (op "-")
  let n ← number
  if isImaginary n then raiseAt n.origin "real number required in complex literal"
  match minus with
  | some t => pure (.leaf t.origin (.unary .minus n.expr))
  | none => pure n

/-- An imaginary number. -/
def imaginaryNumber : Parser Parsed := do
  let n ← number
  if isImaginary n then pure n
  else raiseAt n.origin "imaginary number required in complex literal"

/-- A complex number. -/
def complexNumber : Parser Parsed := do
  let re ← signedReal
  let sign ← (do let _ ← op "+"; pure BinaryOp.add) <|> (do let _ ← op "-"; pure BinaryOp.sub)
  let im ← imaginaryNumber
  pure (.leaf re.origin (.binary sign re.expr im.expr))

/-- A number as a pattern. -/
def literalNumber : Parser Parsed :=
  (do
    let n ← signedNumber
    notAhead (op "+" <|> op "-")
    pure n)
  <|> complexNumber

/-- A constant that is a reserved word. -/
def singleton : Parser (Origin × Constant) := do
  let t ← word "None" <|> word "True" <|> word "False"
  let c := if t.text == "None" then Constant.none else .bool (t.text == "True")
  pure (t.origin, c)

/-- A literal as a key. -/
def literalKey : Parser Expr :=
  Parsed.expr <$> (literalNumber <|> strings g)
    <|> (fun (_, c) => Expr.constant c) <$> singleton

/-- A name that a pattern binds. -/
def captureTarget : Parser Token := do
  let t ← name
  if t.text == "_" then fail
  notAhead (satisfy fun t => t.kind == .operator && [".", "(", "="].elem t.text)
  pure t

/-- A name, perhaps with attributes. -/
def dottedName : Parser Parsed := do
  let a ← nameTarget
  grow (attributeOf a.origin) a

/-- A name with attributes. -/
def qualifiedName : Parser Parsed := do
  let e ← dottedName
  match e.expr with
  | .member _ _ => pure e
  | _ => fail

/-- A pattern for the rest of a sequence. -/
def starPattern : Parser ParsedPattern := do
  let star ← op "*"
  (do
    let t ← captureTarget
    pure ⟨star.origin, .star (some (Text.ofString t.text))⟩)
  <|> (do
    let _ ← softWord "_"
    pure ⟨star.origin, .star none⟩)

/-- An element of a sequence. -/
def elementPattern : Parser ParsedPattern :=
  starPattern <|> g .pattern

/-- A pattern, or several ones as a sequence; a starred one needs a comma. -/
def openPattern : Parser ParsedPattern := do
  let first ← elementPattern g
  let comma ← optional (op ",")
  match comma with
  | some _ => do
    let rest ← optional (commaSeparated (elementPattern g))
    pure ⟨first.origin, .sequence ((first :: rest.getD []).map ParsedPattern.pattern)⟩
  | none =>
    match first.pattern with
    | .star _ => fail
    | _ => pure first

/-- A pattern in parentheses, or a sequence. -/
def roundPattern : Parser ParsedPattern := do
  let t ← op "("
  (do
    let _ ← op ")"
    pure ⟨t.origin, .sequence []⟩)
  <|> (do
    let p ← openPattern g
    let _ ← op ")"
    pure p)

/-- A sequence in square brackets. -/
def squarePattern : Parser ParsedPattern := do
  let o ← here
  let ps ← between "[" (optional (commaSeparated (elementPattern g))) "]"
  pure ⟨o, .sequence ((ps.getD []).map ParsedPattern.pattern)⟩

/-- An entry of a mapping. -/
def entryPattern : Parser (Expr × Pattern) := do
  let key ← literalKey g <|> Parsed.expr <$> qualifiedName
  let _ ← op ":"
  let p ← g .pattern
  pure (key, p.pattern)

/-- The pattern for the rest of a mapping. -/
def restPattern : Parser Text := do
  let _ ← op "**"
  let t ← captureTarget
  pure (Text.ofString t.text)

/-- A mapping. -/
def mappingPattern : Parser ParsedPattern := do
  let o ← here
  let (entries, rest) ← between "\x7b"
    ((do
      let entries ← sepBy1 (entryPattern g) (op ",")
      let rest ← optional (do
        let _ ← op ","
        restPattern)
      let _ ← optional (op ",")
      pure (entries, rest))
    <|> (do
      let rest ← restPattern
      let _ ← optional (op ",")
      pure ([], some rest))
    <|> pure ([], none)) "\x7d"
  pure ⟨o, .mapping (entries.map Prod.fst) (entries.map Prod.snd) rest⟩

/-- A pattern for an attribute. -/
def keywordPattern : Parser (Text × Pattern) := do
  let t ← name
  let _ ← op "="
  let p ← g .pattern
  pure (Text.ofString t.text, p.pattern)

/-- Mistakes in the order of the patterns for a class. -/
def wrongClassPattern : Parser ParsedPattern := complain [do
  let _ ← dottedName
  let _ ← op "("
  let _ ← optional (do
    let _ ← sepBy1 (g .pattern) (op ",")
    op ",")
  let _ ← sepBy1 (keywordPattern g) (op ",")
  let _ ← op ","
  let ps ← sepBy1 (g .pattern) (op ",")
  match ps with
  | p :: _ => raiseAt p.origin "positional patterns follow keyword patterns"
  | [] => pure ()]

/-- The patterns for a class: for positions and for attributes. -/
def classArguments : Parser (List ParsedPattern × List (Text × Pattern)) :=
  (do
    let ps ← sepBy1 (g .pattern) (op ",")
    let ks ← optional (do
      let _ ← op ","
      sepBy1 (keywordPattern g) (op ","))
    let _ ← optional (op ",")
    pure (ps, ks.getD []))
  <|> (do
    let ks ← commaSeparated (keywordPattern g)
    pure ([], ks))
  <|> pure ([], [])

/-- A class with patterns for its parts. -/
def classPattern : Parser ParsedPattern :=
  (do
    let cls ← dottedName
    let (ps, ks) ← between "(" (classArguments g) ")"
    pure ⟨cls.origin, .classOf cls.expr (ps.map ParsedPattern.pattern) (ks.map Prod.fst)
      (ks.map Prod.snd)⟩)
  <|> wrongClassPattern g

/-- A pattern without alternatives. -/
def closedPattern : Parser ParsedPattern :=
  (do
    let e ← literalNumber <|> strings g
    pure ⟨e.origin, .value e.expr⟩)
  <|> (fun (o, c) => ⟨o, .singleton c⟩) <$> singleton
  <|> (do
    let t ← captureTarget
    pure ⟨t.origin, .capture (Text.ofString t.text)⟩)
  <|> (do
    let t ← softWord "_"
    pure ⟨t.origin, .wildcard⟩)
  <|> (do
    let e ← qualifiedName
    notAhead (satisfy fun t => t.kind == .operator && [".", "(", "="].elem t.text)
    pure ⟨e.origin, .value e.expr⟩)
  <|> roundPattern g <|> squarePattern g <|> mappingPattern g <|> classPattern g

/-- Alternatives. -/
def alternatives : Parser ParsedPattern := do
  let ps ← sepBy1 (closedPattern g) (op "|")
  match ps with
  | [p] => pure p
  | p :: _ => pure ⟨p.origin, .alternatives (ps.map ParsedPattern.pattern)⟩
  | [] => fail

/-- A pattern, which may be bound to a name. -/
def pattern : Parser ParsedPattern := do
  let p ← alternatives g
  (do
    let _ ← word "as"
    let t ← captureTarget
    pure ⟨p.origin, .bind p.pattern (Text.ofString t.text)⟩)
  <|> complain [
    do
      let _ ← word "as"
      let t ← softWord "_"
      raiseAtToken t "cannot use '_' as a target",
    do
      let _ ← word "as"
      notAhead name
      let e ← g .expression
      raiseAt e.origin "invalid pattern target"]
  <|> pure p

end

end FluentRecords.Grammar
