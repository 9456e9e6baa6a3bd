import FluentRecords.Syntax.Grammar.Formatted

/-!
The smallest expressions: names, literals, and what stands in brackets; then the attributes, calls and
subscripts that follow them.
-/

namespace FluentRecords.Grammar

open FluentRecords.Parser

/-- A numeral. -/
def number : Parser Parsed := do
  let t ← kind .number
  match Literal.numeral t.text.toList with
  | .ok c => pure (.leaf t.origin (.constant c))
  | .error size =>
    raise ⟨.syntactic, "Exceeds the limit (4300 digits) for integer string conversion: value has "
      ++ Text.ofNat size ++ " digits; use sys.set_int_max_str_digits() to increase the limit - "
      ++ "Consider hexadecimal for huge integer literals to avoid decimal conversion limits.",
      t.place.line, 0⟩

/-- What one string literal contributes to the literals it is joined with. -/
inductive Piece
  | bytes (bs : List UInt8)
  | text (parts : List FormatPart)

section

variable (g : Rules)

/-- The contribution of a string literal; `bytes` tells what the first literal of the row is. -/
def piece (bytes : Bool) (t : Token) : Parser Piece := do
  let l := Literal.stringParts t.text.toList
  let checkKind : Parser Unit :=
    if l.bytes == bytes then pure () else raiseHere "cannot mix bytes and nonbytes literals"
  if l.formatted then
    checkKind
    .text <$> Formatted.parse (g .field) l.raw t.place.line l.body
  else if l.bytes then
    if l.body.any (0x80 ≤ ·.toNat) then
      raiseAtToken t "bytes can only contain ASCII literal characters"
    match Literal.bytesOf l.raw l.body with
    | .ok bs =>
      checkKind
      pure (.bytes bs)
    | .error position =>
      raiseHere ("(value error) invalid \\x escape at position " ++ Text.ofNat position)
  else
    let text ← Formatted.stretchText l.raw l.body
    checkKind
    pure (.text [.literal text])

/-- The contributions of a row of string literals. -/
def pieces (bytes : Bool) : List Token → Parser (List Piece)
  | [] => pure []
  | t :: rest => do
    let p ← piece g bytes t
    let ps ← pieces bytes rest
    pure (p :: ps)

/-- The bytes of a row. -/
def Piece.allBytes (ps : List Piece) : List UInt8 :=
  ps.flatMap fun
    | .bytes bs => bs
    | .text _ => []

/-- The parts of a row. -/
def Piece.allParts (ps : List Piece) : List FormatPart :=
  Formatted.joinLiterals (ps.flatMap fun
    | .bytes _ => []
    | .text parts => parts)

/-- A row of string literals is one literal. -/
def strings : Parser Parsed := memo .strings do
  let t ← kind .string
  let ts ← many (kind .string)
  let first := Literal.stringParts t.text.toList
  let ps ← pieces g first.bytes (t :: ts)
  let formatted := (t :: ts).any fun t => (Literal.stringParts t.text.toList).formatted
  pure (.leaf t.origin
    (if first.bytes then .constant (.bytes (Piece.allBytes ps))
      else if formatted then .formatted (Piece.allParts ps)
      else .constant (.str (Formatted.literalText (Piece.allParts ps)) first.marked)))

/-- An expression that names its value. -/
def assignmentExpression : Parser Parsed := do
  let t ← name
  let _ ← op ":="
  let value ← g .expression
  pure (.leaf t.origin (.named (.name (Text.ofString t.text)) value.expr))

/-- An expression that no walrus operator follows. -/
def unnamed : Parser Parsed := do
  let e ← g .expression
  notAhead (op ":=")
  pure e

/-- An unpacked value. -/
def starredExpression : Parser Parsed := do
  let star ← op "*"
  let e ← g .expression
  pure (.starred star.origin e)

/-- A tuple in parentheses. -/
def tupleDisplay : Parser Parsed := do
  let o ← here
  let elems ← between "(" (optional (do
    let first ← g .starNamedExpression
    let _ ← op ","
    let rest ← optional (g .starNamedExpressions)
    pure (first :: rest.getD []))) ")"
  pure (.tuple o (elems.getD []))

/-- An expression in parentheses. -/
def group : Parser Parsed :=
  between "(" (g .yieldExpression <|> g .namedExpression) ")" <|> complain [
    do
      let e ← between "(" (starredExpression g) ")"
      raiseAt e.origin "cannot use starred expression here",
    do
      let stars ← between "(" (do
        let stars ← op "**"
        let _ ← g .expression
        pure stars) ")"
      raiseAtToken stars "cannot use double starred expression here"]

/-- One of some opening brackets. -/
def opening (brackets : List String) : Parser Token :=
  satisfy fun t => t.kind == .operator && brackets.elem t.text

/-- Mistakes in comprehensions. -/
def wrongComprehension : Parser Parsed := complain [
  do
    let _ ← opening ["[", "(", "\x7b"]
    let e ← starredExpression g
    let _ ← g .clauses
    raiseAt e.origin "iterable unpacking cannot be used in comprehension",
  do
    let _ ← opening ["[", "\x7b"]
    let e ← g .starNamedExpression
    let _ ← op ","
    let _ ← g .starNamedExpressions
    let _ ← g .clauses
    raiseAt e.origin "did you forget parentheses around the comprehension target?",
  do
    let _ ← opening ["[", "\x7b"]
    let e ← g .starNamedExpression
    let _ ← op ","
    let _ ← g .clauses
    raiseAt e.origin "did you forget parentheses around the comprehension target?"]

/-- An element and the clauses of a comprehension, in brackets. -/
def comprehension (opening closing : String) (elem : Parser Parsed)
    (build : Expr → List Clause → Expr) : Parser Parsed :=
  (do
    let o ← here
    let (e, clauses) ← between opening (do
      let e ← elem
      let clauses ← g .clauses
      pure (e, clauses)) closing
    pure (.leaf o (build e.expr clauses)))
  <|> wrongComprehension g

/-- A generator expression. -/
def generator : Parser Parsed :=
  comprehension g "(" ")" (assignmentExpression g <|> unnamed g) .generator

/-- A list. -/
def listDisplay : Parser Parsed := do
  let o ← here
  let elems ← between "[" (optional (g .starNamedExpressions)) "]"
  pure (.list o (elems.getD []))

/-- A set. -/
def setDisplay : Parser Parsed := do
  let o ← here
  let elems ← between "\x7b" (g .starNamedExpressions) "\x7d"
  pure (.leaf o (.set (elems.map Parsed.expr)))

/-- A key with its value. -/
def keyValue : Parser (Expr × Expr) := do
  let key ← g .expression
  let _ ← op ":"
  let value ← g .expression
  pure (key.expr, value.expr)

/-- An entry of a dictionary. -/
def dictItem : Parser DictItem :=
  (do
    let _ ← op "**"
    let e ← g .bitwiseOr
    pure (.unpack e.expr))
  <|> (fun (k, v) => DictItem.entry k v) <$> keyValue g

/-- Mistakes in the value of an entry. -/
def wrongValue : List (Parser Unit) := [
  do
    let _ ← g .expression
    let _ ← op ":"
    let star ← op "*"
    let _ ← g .bitwiseOr
    raiseAtToken star "cannot use a starred expression in a dictionary value",
  do
    let _ ← g .expression
    let colon ← op ":"
    ahead (op "\x7d" <|> op ",")
    raiseAtToken colon "expression expected after dictionary key and ':'"]

/-- A key without a value, reported at the last character of the key. -/
def lonelyKey : Parser Unit := do
  let key ← g .expression
  notAhead (op ":")
  match ← previous? with
  | some t =>
    raise ⟨.syntactic, "':' expected after dictionary key", key.origin.place.line,
      t.offset + t.text.length⟩
  | none => fail

/-- A dictionary. -/
def dictDisplay : Parser Parsed :=
  (do
    let o ← here
    let items ← between "\x7b" (optional (commaSeparated (dictItem g))) "\x7d"
    pure (.leaf o (.dict (items.getD []))))
  <|> complain [do
    let _ ← op "\x7b"
    complain ((do
      let _ ← sepBy1 (dictItem g) (op ",")
      let _ ← op ","
      complain (lonelyKey g :: wrongValue g)) :: wrongValue g)]

/-- A dictionary comprehension. -/
def dictComprehension : Parser Parsed :=
  (do
    let o ← here
    let ((key, value), clauses) ← between "\x7b" (do
      let entry ← keyValue g
      let clauses ← g .clauses
      pure (entry, clauses)) "\x7d"
    pure (.leaf o (.dictComp key value clauses)))
  <|> complain [do
    let stars ← between "\x7b" (do
      let stars ← op "**"
      let _ ← g .bitwiseOr
      let _ ← g .clauses
      pure stars) "\x7d"
    raiseAtToken stars "dict unpacking cannot be used in dict comprehension"]

/-- The value a reserved word stands for. -/
def wordConstant (t : Token) : Parser Parsed :=
  if t.text == "True" then pure (.leaf t.origin (.constant (.bool true)))
  else if t.text == "False" then pure (.leaf t.origin (.constant (.bool false)))
  else if t.text == "None" then pure (.leaf t.origin (.constant .none))
  else fail

/-- What begins with an operator. -/
def bracketed (t : Token) : Parser Parsed :=
  if t.text == "(" then tupleDisplay g <|> group g <|> generator g
  else if t.text == "[" then
    listDisplay g <|> comprehension g "[" "]" (g .namedExpression) .listComp
  else if t.text == "\x7b" then
    dictDisplay g <|> setDisplay g <|> dictComprehension g
      <|> comprehension g "\x7b" "\x7d" (g .namedExpression) .setComp
  else if t.text == "..." then do
    let _ ← any
    pure (.leaf t.origin (.constant .ellipsis))
  else fail

/-- An atom. -/
def atom : Parser Parsed := do
  let t ← peek
  match t.kind with
  | .name => do
    let _ ← any
    pure (.leaf t.origin (.name (Text.ofString t.text)))
  | .keyword => do
    let _ ← any
    wordConstant t
  | .string => strings g
  | .number => number
  | .operator => bracketed g t
  | _ => fail

/-- An attribute of a value that begins at `o`. -/
def attributeOf (o : Origin) (a : Parsed) : Parser Parsed := do
  let _ ← op "."
  let t ← name
  pure (.leaf o (.member a.expr (Text.ofString t.text)))

/-- A subscript of a value that begins at `o`. -/
def subscriptOf (o : Origin) (a : Parsed) : Parser Parsed := do
  let index ← between "[" (g .slices) "]"
  pure (.leaf o (.subscript a.expr index.expr))

/-- A call of a value that begins at `o`, with a generator expression or with arguments. -/
def callOf (o : Origin) (a : Parsed) : Parser Parsed :=
  (do
    let e ← generator g
    pure (.leaf o (.call a.expr [e.expr] [])))
  <|> (do
    match ← between "(" (optional (g .arguments)) ")" with
    | some p => pure (.leaf o (.call a.expr (p.args.map Parsed.expr) p.keywords))
    | none => pure (.leaf o (.call a.expr [] [])))

/-- An atom and what follows it. -/
def primary : Parser Parsed := memo .primary do
  let o ← here
  let a ← atom g
  grow (fun a => attributeOf o a <|> callOf g o a <|> subscriptOf g o a) a

/-- A value that may be awaited. -/
def awaited : Parser Parsed := memo .awaited
  ((do
    let t ← word "await"
    let e ← primary g
    pure (.leaf t.origin (.await e.expr)))
  <|> primary g)

end

end FluentRecords.Grammar
