import FluentRecords.Syntax.Grammar.Atom

/-!
Operators, from the tightest to the loosest: powers, signs, the levels of binary operators, comparisons,
negation and the short-circuit operators.
-/

namespace FluentRecords.Grammar

open FluentRecords.Parser

/-- The operators of a level of binary operators. -/
abbrev OperatorLevel := List (String × BinaryOp)

/-- An operator of a level. -/
def operatorOf (level : OperatorLevel) : Parser BinaryOp := do
  let t ← any
  match if t.kind == .operator then level.lookup t.text else none with
  | some o => pure o
  | none => fail

section

variable (g : Rules)

/-- A power, or a value alone. -/
def power : Parser Parsed := do
  let o ← here
  let base ← awaited g
  (do
    let _ ← op "**"
    let exponent ← g .factor
    pure (.leaf o (.binary .pow base.expr exponent.expr)))
  <|> pure base

/-- The sign an operator stands for. -/
def signOf (t : Token) : Option UnaryOp :=
  if t.kind != .operator then none
  else [("+", .plus), ("-", .minus), ("~", .invert)].lookup t.text

/-- A signed value. -/
def factor : Parser Parsed := memo .factor do
  let t ← peek
  match signOf t with
  | some sign => do
    let _ ← any
    let e ← g .factor
    pure (.leaf t.origin (.unary sign e.expr))
  | none => power g

/-- A level of binary operators that group to the left. -/
def binaryLevel (rule : Kept) (level : OperatorLevel) (operand : Parser Parsed) : Parser Parsed :=
  memo rule do
    let o ← here
    let a ← operand
    grow (fun a => do
      let bop ← operatorOf level
      let b ← operand
      pure (.leaf o (.binary bop a.expr b.expr))) a

/-- Products. -/
def term : Parser Parsed :=
  binaryLevel .term [("*", .mul), ("/", .div), ("//", .floorDiv), ("%", .mod), ("@", .matMul)]
    (factor g)

/-- Sums. -/
def sum : Parser Parsed :=
  binaryLevel .sum [("+", .add), ("-", .sub)] (term g)

/-- Shifts. -/
def shift : Parser Parsed :=
  binaryLevel .shift [("<<", .leftShift), (">>", .rightShift)] (sum g)

/-- Bitwise conjunctions. -/
def bitwiseAnd : Parser Parsed :=
  binaryLevel .bitwiseAnd [("&", .bitAnd)] (shift g)

/-- Exclusive bitwise disjunctions. -/
def bitwiseXor : Parser Parsed :=
  binaryLevel .bitwiseXor [("^", .bitXor)] (bitwiseAnd g)

/-- Bitwise disjunctions. -/
def bitwiseOr : Parser Parsed :=
  binaryLevel .bitwiseOr [("|", .bitOr)] (bitwiseXor g)

/-- A comparison operator. -/
def compareOp : Parser CompareOp := do
  let t ← any
  match t.kind, t.text with
  | .operator, "==" => pure .eq
  | .operator, "!=" => pure .notEq
  | .operator, "<=" => pure .le
  | .operator, "<" => pure .lt
  | .operator, ">=" => pure .ge
  | .operator, ">" => pure .gt
  | .keyword, "not" => do
    let _ ← word "in"
    pure .notIn
  | .keyword, "in" => pure .isIn
  | .keyword, "is" =>
    (do
      let _ ← word "not"
      pure .isNot)
    <|> pure .is
  | _, _ => fail

/-- A chain of comparisons. -/
def comparison : Parser Parsed := do
  let o ← here
  let a ← g .bitwiseOr
  let rest ← many (do
    let cop ← compareOp
    let b ← g .bitwiseOr
    pure (Comparison.mk cop b.expr))
  if rest.isEmpty then pure a else pure (.mk o (.compare a.expr rest) [a])

/-- A negation, or a comparison. -/
def inversion : Parser Parsed := memo .inversion
  ((do
    let t ← word "not"
    let e ← g .inversion
    pure (.leaf t.origin (.unary .not e.expr)))
  <|> comparison g)

/-- A level of a short-circuit operator. -/
def boolLevel (rule : Kept) (text : String) (bop : BoolOp) (operand : Parser Parsed) :
    Parser Parsed :=
  memo rule do
    let o ← here
    let a ← operand
    let rest ← many (do
      let _ ← word text
      operand)
    if rest.isEmpty then pure a
    else pure (.leaf o (.bool bop (a.expr :: rest.map Parsed.expr)))

/-- Conjunctions. -/
def conjunction : Parser Parsed :=
  boolLevel .conjunction "and" .and (inversion g)

/-- Disjunctions. -/
def disjunction : Parser Parsed :=
  boolLevel .disjunction "or" .or (conjunction g)

end

end FluentRecords.Grammar
