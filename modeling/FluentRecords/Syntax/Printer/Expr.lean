import FluentRecords.Decimal.Shortest
import FluentRecords.Syntax.Printer.StringLiteral
import FluentRecords.Syntax.Tree

/-!
The text of expressions. Every operand is printed for the least binding strength its place accepts and
is put in parentheses if it binds less. Inside the fields of a formatted string no backslash may occur;
an expression that needs one there has no text.
-/

namespace FluentRecords

/-- Why a tree has no text. -/
inductive PrintFault
  | backslashInField
  | hugeInteger
deriving DecidableEq

/-- How a printing fault is reported. -/
def PrintFault.message : PrintFault → Text
  | backslashInField => "Unable to avoid backslash in f-string expression part"
  | hugeInteger =>
    "Exceeds the limit (4300 digits) for integer string conversion; use sys.set_int_max_str_digits() to increase the limit"

/-- The text of a tree, if it has one. -/
abbrev Rendering := Except PrintFault Text

/-- How strongly an expression holds together, from the weakest to the strongest. -/
inductive Strength
  | named
  | tuple
  | yield
  | test
  | or
  | and
  | not
  | comparison
  | bitOr
  | bitXor
  | bitAnd
  | shift
  | sum
  | term
  | factor
  | power
  | await
  | atom
deriving DecidableEq

namespace Strength

/-- The place in the order. -/
def level : Strength → Nat
  | named => 0
  | tuple => 1
  | yield => 2
  | test => 3
  | or => 4
  | and => 5
  | not => 6
  | comparison => 7
  | bitOr => 8
  | bitXor => 9
  | bitAnd => 10
  | shift => 11
  | sum => 12
  | term => 13
  | factor => 14
  | power => 15
  | await => 16
  | atom => 17

/-- The next stronger one; nothing is stronger than an atom. -/
def next : Strength → Strength
  | named => tuple
  | tuple => yield
  | yield => test
  | test => or
  | or => and
  | and => not
  | not => comparison
  | comparison => bitOr
  | bitOr => bitXor
  | bitXor => bitAnd
  | bitAnd => shift
  | shift => sum
  | sum => term
  | term => factor
  | factor => power
  | power => await
  | await => atom
  | atom => atom

end Strength

/-- Parentheses around the text if it binds less than its place requires. -/
def enclose (required own : Strength) (t : Text) : Text :=
  if own.level < required.level then "(" ++ t ++ ")" else t

/-- The sign of a unary operator and its strength. -/
def UnaryOp.sign : UnaryOp → Text × Strength
  | .invert => ("~", .factor)
  | .not => ("not ", .not)
  | .plus => ("+", .factor)
  | .minus => ("-", .factor)

/-- The sign of a binary operator. -/
def BinaryOp.sign : BinaryOp → Text
  | .add => "+"
  | .sub => "-"
  | .mul => "*"
  | .matMul => "@"
  | .div => "/"
  | .mod => "%"
  | .leftShift => "<<"
  | .rightShift => ">>"
  | .bitOr => "|"
  | .bitXor => "^"
  | .bitAnd => "&"
  | .floorDiv => "//"
  | .pow => "**"

/-- The strength of a binary operator. -/
def BinaryOp.strength : BinaryOp → Strength
  | .add => .sum
  | .sub => .sum
  | .mul => .term
  | .matMul => .term
  | .div => .term
  | .mod => .term
  | .leftShift => .shift
  | .rightShift => .shift
  | .bitOr => .bitOr
  | .bitXor => .bitXor
  | .bitAnd => .bitAnd
  | .floorDiv => .term
  | .pow => .power

/-- The strengths required of the operands; only powers group to the right. -/
def BinaryOp.operandStrengths (op : BinaryOp) : Strength × Strength :=
  if op = .pow then (op.strength.next, op.strength) else (op.strength, op.strength.next)

/-- The word of a short-circuit operator. -/
def BoolOp.word : BoolOp → Text
  | .and => "and"
  | .or => "or"

/-- The strength of a short-circuit operator. -/
def BoolOp.strength : BoolOp → Strength
  | .and => .and
  | .or => .or

/-- The sign of a comparison. -/
def CompareOp.sign : CompareOp → Text
  | .eq => "=="
  | .notEq => "!="
  | .lt => "<"
  | .le => "<="
  | .gt => ">"
  | .ge => ">="
  | .is => "is"
  | .isNot => "is not"
  | .isIn => "in"
  | .notIn => "not in"

/-- The letter of a conversion. -/
def Conversion.letter : Conversion → Text
  | .str => "s"
  | .repr => "r"
  | .ascii => "a"

/-- The conversion of a field as written. -/
def conversionText : Option Conversion → Text
  | none => []
  | some c => "!" ++ c.letter

/-- A number too large for double precision is written as a literal that overflows again. -/
def magnitudeText (point : Bool) : Magnitude → Text
  | .infinite => "1e309"
  | m => Binary64.Magnitude.text point m

/-- A comma-separated sequence; a single element keeps its comma. -/
def commaText : List Text → Text
  | [t] => t ++ ","
  | ts => Text.join ", " ts

namespace Constant

/-- The text of a constant. -/
def text (avoidBackslash : Bool) : Constant → Rendering
  | none => .ok "None"
  | ellipsis => .ok "..."
  | bool b => .ok (if b then "True" else "False")
  | int n => if n < Nat.pow 10 4300 then .ok (Text.ofNat n) else .error .hugeInteger
  | float x => .ok (magnitudeText true x.magnitude)
  | imaginary x => .ok (magnitudeText false x.magnitude ++ "j")
  | str t marked => .ok (Text.when marked "u" ++
      if avoidBackslash then StringLiteral.write t StringLiteral.Delimiter.all else Text.quote t)
  | bytes bs => .ok (Text.quoteBytes bs)

end Constant

/-- The literal text inside a formatted string, braces doubled. -/
def doubleBraces (t : Text) : Text :=
  t.flatMap fun c => if c == 0x7B || c == 0x7D then [c, c] else [c]

/-- The expression text of a field: no backslash may occur, and a leading brace is set apart. -/
def fieldText (t : Text) : Rendering :=
  if t.elem Text.backslash then .error .backslashInField
  else .ok (Text.when (t.head? == some 0x7B) " " ++ t)

namespace Expr

/-- Whether an attribute needs a blank before its point. -/
def isInteger : Expr → Bool
  | constant (.int _) => true
  | constant (.bool _) => true
  | _ => false

mutual

/-- The text of an expression in a place that requires a strength; `avoid` forbids backslashes. A
nonempty tuple needs no parentheses between the brackets of a subscript. -/
def render (avoid : Bool) (required : Strength) : Expr → Rendering
  | name id => .ok id
  | constant c => c.text avoid
  | formatted parts => do
    if avoid then
      let body ← renderFormat parts
      .ok ("f" ++ StringLiteral.write body StringLiteral.Delimiter.all)
    else
      let bodies ← renderParts parts
      .ok ("f" ++ StringLiteral.writeParts bodies)
  | tuple elems => do
    let ts ← renderAll avoid elems
    .ok (if elems.isEmpty then "()" else enclose required .tuple (commaText ts))
  | list elems => do
    let ts ← renderAll avoid elems
    .ok ("[" ++ Text.join ", " ts ++ "]")
  | set elems => do
    let ts ← renderAll avoid elems
    .ok (if elems.isEmpty then "\x7b*()\x7d" else "\x7b" ++ Text.join ", " ts ++ "\x7d")
  | dict items => do
    let ts ← renderItems avoid items
    .ok ("\x7b" ++ Text.join ", " ts ++ "\x7d")
  | member value attr => do
    let t ← render avoid .atom value
    .ok (t ++ Text.when value.isInteger " " ++ "." ++ attr)
  | subscript value (tuple (e :: es)) => do
    let t ← render avoid .atom value
    let i ← render avoid .test e
    let is ← renderAll avoid es
    .ok (t ++ "[" ++ commaText (i :: is) ++ "]")
  | subscript value index => do
    let t ← render avoid .atom value
    let i ← render avoid .test index
    .ok (t ++ "[" ++ i ++ "]")
  | slice lower upper step => do
    let l ← renderOption avoid lower
    let u ← renderOption avoid upper
    let s ← renderOption avoid step
    .ok (l ++ ":" ++ u ++ Text.when step.isSome (":" ++ s))
  | starred value => do
    let t ← render avoid .bitOr value
    .ok ("*" ++ t)
  | call func args keywords => do
    let f ← render avoid .atom func
    let xs ← renderAll avoid args
    let ks ← renderKeywords avoid keywords
    .ok (f ++ "(" ++ Text.join ", " (xs ++ ks) ++ ")")
  | unary op operand => do
    let t ← render avoid op.sign.2 operand
    .ok (enclose required op.sign.2 (op.sign.1 ++ t))
  | binary op left right => do
    let l ← render avoid op.operandStrengths.1 left
    let r ← render avoid op.operandStrengths.2 right
    .ok (enclose required op.strength (l ++ " " ++ op.sign ++ " " ++ r))
  | bool op values => do
    let ts ← renderRising avoid op.strength.next values
    .ok (enclose required op.strength (Text.join (" " ++ op.word ++ " ") ts))
  | compare left rest => do
    let l ← render avoid .bitOr left
    let r ← renderComparisons avoid rest
    .ok (enclose required .comparison (l ++ r))
  | conditional test body orelse => do
    let b ← render avoid .or body
    let t ← render avoid .or test
    let e ← render avoid .test orelse
    .ok (enclose required .test (b ++ " if " ++ t ++ " else " ++ e))
  | lambda params body => do
    let ps ← renderParams avoid params
    let b ← render avoid .test body
    .ok (enclose required .test ("lambda" ++ Text.when (!ps.isEmpty) (" " ++ ps) ++ ": " ++ b))
  | named target value => do
    let t ← render avoid .atom target
    let v ← render avoid .atom value
    .ok (enclose required .named (t ++ " := " ++ v))
  | await value => do
    let t ← render avoid .atom value
    .ok (enclose required .await ("await " ++ t))
  | yield none => .ok (enclose required .yield "yield")
  | yield (some value) => do
    let t ← render avoid .atom value
    .ok (enclose required .yield ("yield " ++ t))
  | yieldFrom value => do
    let t ← render avoid .atom value
    .ok (enclose required .yield ("yield from " ++ t))
  | listComp elem clauses => do
    let e ← render avoid .test elem
    let cs ← renderClauses avoid clauses
    .ok ("[" ++ e ++ cs ++ "]")
  | setComp elem clauses => do
    let e ← render avoid .test elem
    let cs ← renderClauses avoid clauses
    .ok ("\x7b" ++ e ++ cs ++ "\x7d")
  | generator elem clauses => do
    let e ← render avoid .test elem
    let cs ← renderClauses avoid clauses
    .ok ("(" ++ e ++ cs ++ ")")
  | dictComp key value clauses => do
    let k ← render avoid .test key
    let v ← render avoid .test value
    let cs ← renderClauses avoid clauses
    .ok ("\x7b" ++ k ++ ": " ++ v ++ cs ++ "\x7d")

/-- The text of an optional expression. -/
def renderOption (avoid : Bool) : Option Expr → Rendering
  | none => .ok []
  | some e => render avoid .test e

/-- The texts of elements. -/
def renderAll (avoid : Bool) : List Expr → Except PrintFault (List Text)
  | [] => .ok []
  | e :: rest => do
    let t ← render avoid .test e
    let ts ← renderAll avoid rest
    .ok (t :: ts)

/-- The texts of operands, each in a place that requires more than the one before. -/
def renderRising (avoid : Bool) (required : Strength) : List Expr → Except PrintFault (List Text)
  | [] => .ok []
  | e :: rest => do
    let t ← render avoid required e
    let ts ← renderRising avoid required.next rest
    .ok (t :: ts)

/-- The texts of dictionary entries. -/
def renderItems (avoid : Bool) : List DictItem → Except PrintFault (List Text)
  | [] => .ok []
  | .entry k v :: rest => do
    let kt ← render avoid .test k
    let vt ← render avoid .test v
    let ts ← renderItems avoid rest
    .ok ((kt ++ ": " ++ vt) :: ts)
  | .unpack v :: rest => do
    let vt ← render avoid .bitOr v
    let ts ← renderItems avoid rest
    .ok (("**" ++ vt) :: ts)

/-- The texts of keyword arguments. -/
def renderKeywords (avoid : Bool) : List Keyword → Except PrintFault (List Text)
  | [] => .ok []
  | .mk n _ v :: rest => do
    let vt ← render avoid .test v
    let ts ← renderKeywords avoid rest
    .ok ((match n with
      | some n => n ++ "=" ++ vt
      | none => "**" ++ vt) :: ts)

/-- The further operands of a chain of comparisons. -/
def renderComparisons (avoid : Bool) : List Comparison → Rendering
  | [] => .ok []
  | .mk op right :: rest => do
    let t ← render avoid .bitOr right
    let ts ← renderComparisons avoid rest
    .ok (" " ++ op.sign ++ " " ++ t ++ ts)

/-- The clauses of a comprehension. -/
def renderClauses (avoid : Bool) : List Clause → Rendering
  | [] => .ok []
  | .mk isAsync target iter conditions :: rest => do
    let t ← render avoid .tuple target
    let i ← render avoid .or iter
    let cs ← renderConditions avoid conditions
    let ts ← renderClauses avoid rest
    .ok ((if isAsync then " async for " else " for ") ++ t ++ " in " ++ i ++ cs ++ ts)

/-- The conditions of a clause. -/
def renderConditions (avoid : Bool) : List Expr → Rendering
  | [] => .ok []
  | e :: rest => do
    let t ← render avoid .or e
    let ts ← renderConditions avoid rest
    .ok (" if " ++ t ++ ts)

/-- The parts of a formatted string, each with whether it is literal text. -/
def renderParts : List FormatPart → Except PrintFault (List (Text × Bool))
  | [] => .ok []
  | .literal t :: rest => do
    let ts ← renderParts rest
    .ok ((doubleBraces t, true) :: ts)
  | .field value conversion :: rest => do
    let v ← render true .or value
    let t ← fieldText v
    let ts ← renderParts rest
    .ok (("\x7b" ++ t ++ conversionText conversion ++ "\x7d", false) :: ts)
  | .fieldWith value conversion format :: rest => do
    let v ← render true .or value
    let t ← fieldText v
    let f ← renderFormat format
    let ts ← renderParts rest
    .ok (("\x7b" ++ t ++ conversionText conversion ++ ":" ++ f ++ "\x7d", false) :: ts)

/-- The inside of a formatted string. -/
def renderFormat : List FormatPart → Rendering
  | [] => .ok []
  | .literal t :: rest => do
    let ts ← renderFormat rest
    .ok (doubleBraces t ++ ts)
  | .field value conversion :: rest => do
    let v ← render true .or value
    let t ← fieldText v
    let ts ← renderFormat rest
    .ok ("\x7b" ++ t ++ conversionText conversion ++ "\x7d" ++ ts)
  | .fieldWith value conversion format :: rest => do
    let v ← render true .or value
    let t ← fieldText v
    let f ← renderFormat format
    let ts ← renderFormat rest
    .ok ("\x7b" ++ t ++ conversionText conversion ++ ":" ++ f ++ "\x7d" ++ ts)

/-- The text of a parameter, with a star or two in front for those that take the rest. -/
def renderParam (avoid : Bool) (stars : Text) : Param → Rendering
  | .mk n type dflt => do
    let a ← renderOption avoid type
    let d ← renderOption avoid dflt
    .ok (stars ++ n ++ Text.when type.isSome (": " ++ a) ++ Text.when dflt.isSome ("=" ++ d))

/-- The texts of several parameters. -/
def renderParamList (avoid : Bool) : List Param → Except PrintFault (List Text)
  | [] => .ok []
  | p :: rest => do
    let t ← renderParam avoid [] p
    let ts ← renderParamList avoid rest
    .ok (t :: ts)

/-- The text of an optional parameter. -/
def renderParamOption (avoid : Bool) (stars : Text) : Option Param → Except PrintFault (List Text)
  | none => .ok []
  | some p => do
    let t ← renderParam avoid stars p
    .ok [t]

/-- The text of a parameter list. -/
def renderParams (avoid : Bool) : Params → Rendering
  | .mk positional regular rest keyword keywordRest => do
    let ps ← renderParamList avoid positional
    let rs ← renderParamList avoid regular
    let star ← renderParamOption avoid "*" rest
    let ks ← renderParamList avoid keyword
    let kr ← renderParamOption avoid "**" keywordRest
    let slash := if ps.isEmpty then [] else [Text.ofString "/"]
    let bare := if star.isEmpty && !ks.isEmpty then [Text.ofString "*"] else star
    .ok (Text.join ", " (ps ++ slash ++ rs ++ bare ++ ks ++ kr))

end

/-- The text of an expression that stands for itself. -/
def text (e : Expr) : Rendering :=
  e.render false .test

end Expr

end FluentRecords
