import FluentRecords.Syntax.Grammar.Literal
import FluentRecords.Syntax.Grammar.Rule

/-!
Formatted strings. Their body alternates between literal stretches and fields in braces. Where a field
ends is found by looking at brackets and quotes alone; only then is its expression parsed, wrapped in
parentheses so that it may span lines. The format of a field is a formatted string itself, nested at
most once.
-/

namespace FluentRecords.Formatted

/-- A literal stretch: its characters, and what follows. `doubled` tells that a doubled brace ended it,
so no field begins there. -/
structure Stretch where
  chars : List Char
  rest : List Char
  doubled : Bool

/-- What the characters before mean for the next one: nothing, a backslash, a backslash and `N`, or the
name of a character in braces. -/
inductive StretchMode
  | plain
  | escaped
  | beforeName
  | charName
deriving DecidableEq

/-- What a brace does to a literal stretch. On the top level a doubled brace stands for itself and a
single closing one has no meaning. -/
def atBrace (top : Bool) (brace : Char) (done rest : List Char) : Except Text Stretch :=
  if top && rest.head? == some brace then .ok ⟨(brace :: done).reverse, rest.drop 1, true⟩
  else if top && brace == '\x7d' then .error "f-string: single '\x7d' is not allowed"
  else .ok ⟨done.reverse, brace :: rest, false⟩

/-- Reads a literal stretch; `done` holds its characters so far, the last one first. -/
def stretch (raw top : Bool) (mode : StretchMode) (done : List Char) :
    List Char → Except Text Stretch
  | [] => .ok ⟨done.reverse, [], false⟩
  | c :: rest =>
    let isBrace := c == '\x7b' || c == '\x7d'
    match mode with
    | .plain =>
      if c == '\\' && !raw then stretch raw top .escaped (c :: done) rest
      else if isBrace then atBrace top c done rest
      else stretch raw top .plain (c :: done) rest
    | .escaped =>
      if c == 'N' then stretch raw top .beforeName (c :: done) rest
      else if isBrace then atBrace top c done rest
      else stretch raw top .plain (c :: done) rest
    | .beforeName =>
      stretch raw top (if c == '\x7b' then .charName else .plain) (c :: done) rest
    | .charName =>
      stretch raw top (if c == '\x7d' then .plain else .charName) (c :: done) rest

/-- The characters that can end the expression of a field outside brackets, or begin an operator. -/
def endsField (c : Char) : Bool :=
  ['!', ':', '\x7d', '=', '<', '>'].elem c

/-- Splits off the expression of a field. `quote` is the open quote and whether it is a triple one,
`opened` the open brackets, `skip` the number of characters that belong to what was read last. -/
def fieldExpr (quote : Option (Char × Bool)) (opened : List Char) (skip : Nat)
    (done : List Char) : List Char → Except Text (List Char × List Char)
  | [] =>
    if quote.isSome then .error "f-string: unterminated string"
    else match opened with
      | o :: _ => .error ("f-string: unmatched '" ++ [o.toNat] ++ "'")
      | [] => .error "f-string: expecting '\x7d'"
  | c :: rest =>
    match skip with
    | k + 1 => fieldExpr quote opened k (c :: done) rest
    | 0 =>
      if c == '\\' then .error "f-string expression part cannot include a backslash"
      else
        let tripled := rest.take 2 == [c, c]
        match quote with
        | some (q, triple) =>
          if c == q && (!triple || tripled) then
            fieldExpr none opened (if triple then 2 else 0) (c :: done) rest
          else fieldExpr quote opened 0 (c :: done) rest
        | none =>
          if c == '\'' || c == '"' then
            fieldExpr (some (c, tripled)) opened (if tripled then 2 else 0) (c :: done) rest
          else if c == '(' || c == '[' || c == '\x7b' then
            if 200 ≤ opened.length then .error "f-string: too many nested parenthesis"
            else fieldExpr none (c :: opened) 0 (c :: done) rest
          else if c == '#' then .error "f-string expression part cannot include '#'"
          else if opened.isEmpty && endsField c then
            if c != ':' && c != '\x7d' && rest.head? == some '=' then
              fieldExpr none opened 1 (c :: done) rest
            else if c == '<' || c == '>' then fieldExpr none opened 0 (c :: done) rest
            else .ok (done.reverse, c :: rest)
          else if c == ')' || c == ']' || c == '\x7d' then
            match opened with
            | [] => .error ("f-string: unmatched '" ++ [c.toNat] ++ "'")
            | o :: os =>
              if o == Reader.opener c then fieldExpr none os 0 (c :: done) rest
              else .error ("f-string: closing parenthesis '" ++ [c.toNat]
                ++ "' does not match opening parenthesis '" ++ [o.toNat] ++ "'")
          else fieldExpr none opened 0 (c :: done) rest

/-- A blank character inside a field. -/
def isBlank (c : Char) : Bool :=
  c == ' ' || c == '\t' || c == '\n' || c == '\x0c'

/-- A blank character after the mark `=` of a field. -/
def isSpace (c : Char) : Bool :=
  isBlank c || c == '\r' || c == '\x0b'

/-- The conversion a letter stands for. -/
def conversionOf (c : Char) : Except Text Conversion :=
  if c == 's' then .ok .str
  else if c == 'r' then .ok .repr
  else if c == 'a' then .ok .ascii
  else .error "f-string: invalid conversion character: expected 's', 'r', or 'a'"

/-- Reads the conversion of a field, if it has one. -/
def conversion (cs : List Char) : Except Text (Option Conversion × List Char) :=
  match cs with
  | ['!'] => .error "f-string: expecting '\x7d'"
  | '!' :: c :: rest => (conversionOf c).map fun conv => (some conv, rest)
  | cs => .ok (none, cs)

/-- Neighbouring literal parts joined, empty ones dropped. -/
def joinLiterals : List FormatPart → List FormatPart
  | [] => []
  | .literal t :: rest =>
    match joinLiterals rest with
    | .literal u :: more => .literal (t ++ u) :: more
    | more => if t.isEmpty then more else .literal t :: more
  | part :: rest => part :: joinLiterals rest

/-- The text of literal parts alone. -/
def literalText : List FormatPart → Text
  | [] => []
  | .literal t :: rest => t ++ literalText rest
  | _ :: rest => literalText rest

/-- Reports what a pure reading step found, at the last token looked at. -/
def reading {α : Type} : Except Text α → Parser α
  | .ok a => pure a
  | .error message => Parser.raiseHere message

/-- The text of a literal stretch. -/
def stretchText (raw : Bool) (cs : List Char) : Parser Text :=
  reading ((Literal.textOf raw cs).mapError Literal.EscapeFault.message)

/-- Parses the expression of a field, which stands in the line `line`; `stop` is what ended it. -/
def parseField (expression : Parser Parsed) (line : Nat) (cs : List Char) (stop : Char) :
    Parser Expr :=
  if cs.all isBlank then
    if stop == '!' || stop == ':' || stop == '=' then
      Parser.raiseHere ("f-string: expression required before '" ++ [stop.toNat] ++ "'")
    else Parser.raiseHere "f-string: empty expression not allowed"
  else
    let attempt : Attempt Parsed := ⟨expression, "f-string: "⟩
    match attempt.run (Tokens.ofSource ('(' :: cs ++ [')', '\n'])) with
    | .ok p => pure p.expr
    | .error f => Parser.raiseInField { f with line := line + f.line - 1 }

/-- The parts of a formatted string up to its end, or up to the brace that ends a format, and what
follows. `lineOf` tells in which line a remainder of the string begins. -/
def parts (expression : Parser Parsed) (raw : Bool) (lineOf : List Char → Nat) (level : Nat)
    (cs : List Char) : Nat → Parser (List FormatPart × List Char)
  | 0 => Parser.fail
  | fuel + 1 => do
    let s ← reading (stretch raw (level == 0) .plain [] cs)
    let t ← stretchText raw s.chars
    if s.doubled then
      let (more, rest) ← parts expression raw lineOf level s.rest fuel
      pure (.literal t :: more, rest)
    else match s.rest with
      | [] => pure ([.literal t], [])
      | '\x7d' :: _ => pure ([.literal t], s.rest)
      | _ :: inside => do
        if 2 ≤ level then Parser.raiseHere "f-string: expressions nested too deeply"
        let (source, after) ← reading (fieldExpr none [] 0 [] inside)
        let value ← parseField expression (lineOf s.rest) source (after.headD '\x7d')
        let shown := after.head? == some '='
        let blanks := if shown then (after.drop 1).takeWhile isSpace else []
        let label := if shown then Text.ofChars (source ++ '=' :: blanks) else []
        let after := if shown then after.drop (1 + blanks.length) else after
        let (conv, after) ← reading (conversion after)
        let (part, after) ← match after with
          | ':' :: spec => do
            let (format, rest) ← parts expression raw lineOf (level + 1) spec fuel
            pure (FormatPart.fieldWith value conv (joinLiterals format), rest)
          | after =>
            let conv := if shown && conv.isNone then some .repr else conv
            pure (FormatPart.field value conv, after)
        match after with
        | '\x7d' :: rest => do
          let (more, rest) ← parts expression raw lineOf level rest fuel
          pure (.literal t :: .literal label :: part :: more, rest)
        | _ => Parser.raiseHere "f-string: expecting '\x7d'"

/-- The parts of a whole formatted string, whose body begins in a given line. -/
def parse (expression : Parser Parsed) (raw : Bool) (line : Nat) (body : List Char) :
    Parser (List FormatPart) := do
  let lineOf rest := line + (body.take (body.length - rest.length)).count '\n'
  let (ps, _) ← parts expression raw lineOf 0 body (body.length + 1)
  pure ps

end FluentRecords.Formatted
