import FluentRecords.Syntax.Token.Basic
import FluentRecords.Syntax.Token.Number
import FluentRecords.Text.Compatibility
import FluentRecords.Text.Identifier
import FluentRecords.Text.Printable

/-!
Reading tokens. Indentation is turned into marks, comments and blank lines are skipped, and inside
brackets line ends have no meaning. Reading stops at the end or at the first fault. A fault is either
found in the characters of a token, or only says that no token can follow; the difference matters when a
source has a fault of its grammar as well (`TokenFault.lexical`).
-/

namespace FluentRecords

/-- An open bracket and its place. -/
structure Bracket where
  opening : Char
  line : Nat
  offset : Nat

/-- The fault of a bracket that stays open. -/
def Bracket.neverClosed (b : Bracket) : SyntaxFault :=
  ⟨.syntactic, "'" ++ [b.opening.toNat] ++ "' was never closed", b.line, b.offset + 1⟩

/-- A fault found while reading tokens, and the innermost bracket open there. -/
structure TokenFault where
  lexical : Bool
  fault : SyntaxFault
  bracket : Option Bracket

/-- What is known between two tokens. `indents` holds the columns of the enclosing blocks, measured with
wide and with narrow tabs; `pending` the marks of indentation still to be given out. -/
structure Reader where
  cursor : Cursor
  atLineStart : Bool
  indents : List (Nat × Nat)
  pending : Int
  brackets : List Bracket

/-- One reading step. -/
inductive ReadStep
  | token (t : Token) (next : Reader)
  | skip (next : Reader)
  | finish (t : Token)
  | fault (f : TokenFault)

namespace Reader

/-- The start of a source. -/
def start (cs : List Char) : Reader :=
  ⟨.start cs, true, [], 0, []⟩

/-- A fault in the characters read up to the cursor. -/
def lexicalFault (c : Cursor) (message : Text) : ReadStep :=
  .fault ⟨true, ⟨.syntactic, message, c.line, c.chars⟩, none⟩

/-- The fault of a source that ends, or cannot go on, inside a bracket or after a line continuation. -/
def endFault (r : Reader) : ReadStep :=
  match r.brackets with
  | b :: _ => .fault ⟨false, b.neverClosed, some b⟩
  | [] =>
    .fault ⟨false, ⟨.syntactic, "unexpected EOF while parsing", r.cursor.line, r.cursor.chars⟩, none⟩

/-- A mark without characters. -/
def mark (r : Reader) (kind : TokenKind) : Token :=
  ⟨kind, "", r.cursor.place, r.cursor.chars, r.cursor.column, r.brackets.length⟩

/-- The indentation of a line: its columns with wide and narrow tabs, and the column before the first
line continuation, which then decides. -/
structure Margin where
  wide : Nat
  narrow : Nat
  continued : Nat
  cursor : Cursor

/-- What stops the measuring of an indentation. -/
inductive MarginFault
  | badContinuation (c : Cursor)
  | endOfSource (c : Cursor)

/-- Reads past a backslash and the line feed after it. -/
def continueLine (c : Cursor) : Except MarginFault Cursor :=
  let c := c.step
  match c.peek? with
  | some '\n' =>
    let c := c.step
    if c.rest.isEmpty then .error (.endOfSource c) else .ok c
  | some _ => .error (.badContinuation c.step)
  | none => .error (.badContinuation c)

/-- Measures the indentation of a line. -/
def margin (m : Margin) : Nat → Except MarginFault Margin
  | 0 => .ok m
  | fuel + 1 =>
    let c := m.cursor.enter
    match c.peek? with
    | some ' ' => margin ⟨m.wide + 1, m.narrow + 1, m.continued, c.step⟩ fuel
    | some '\t' => margin ⟨(m.wide / 8 + 1) * 8, m.narrow + 1, m.continued, c.step⟩ fuel
    | some '\x0c' => margin ⟨0, 0, m.continued, c.step⟩ fuel
    | some '\\' => do
      let continued := if m.continued = 0 then m.wide else m.continued
      let next ← continueLine c
      margin ⟨m.wide, m.narrow, continued, next⟩ fuel
    | _ => .ok { m with cursor := c }

/-- The fault of a line continuation that is followed by something else. Its offset counts from the first
of the joined lines. -/
def continuationFault (r : Reader) (c : Cursor) : ReadStep :=
  .fault ⟨false,
    ⟨.syntactic, "unexpected character after line continuation character", c.line,
      c.joined + c.chars⟩,
    r.brackets.head?⟩

/-- Reports what stopped the measuring. -/
def marginFault (r : Reader) : MarginFault → ReadStep
  | .badContinuation c => continuationFault r c
  | .endOfSource c => endFault { r with cursor := c }

/-- The fault of tabs and blanks whose order matters. -/
def tabFault (c : Cursor) : ReadStep :=
  .fault ⟨false, ⟨.tabs, "inconsistent use of tabs and spaces in indentation", c.line, 1⟩, none⟩

/-- Drops the blocks deeper than a column and counts them. -/
def dropDeeper (column : Nat) : List (Nat × Nat) → Nat × List (Nat × Nat)
  | [] => (0, [])
  | top :: rest =>
    if column < top.1 then
      let (n, left) := dropDeeper column rest
      (n + 1, left)
    else (0, top :: rest)

/-- Compares the indentation of a line with the enclosing blocks. -/
def indentTo (r : Reader) (wide narrow : Nat) : ReadStep :=
  let top := r.indents.head?.getD (0, 0)
  let c := r.cursor
  if wide = top.1 then
    if narrow = top.2 then .skip r else tabFault c
  else if top.1 < wide then
    if 99 ≤ r.indents.length then
      .fault ⟨false, ⟨.indentation, "too many levels of indentation", c.line, 1⟩, none⟩
    else if narrow ≤ top.2 then tabFault c
    else .skip { r with indents := (wide, narrow) :: r.indents, pending := 1 }
  else
    let (n, left) := dropDeeper wide r.indents
    let below := left.head?.getD (0, 0)
    if wide ≠ below.1 then
      let c := c.skipLine
      .fault ⟨false,
        ⟨.indentation, "unindent does not match any outer indentation level", c.line, c.chars⟩, none⟩
    else if narrow ≠ below.2 then tabFault c
    else .skip { r with indents := left, pending := -(n : Int) }

/-- Reads a comment up to the line feed. -/
def skipComment (c : Cursor) : Cursor :=
  c.advance (c.rest.takeWhile (· != '\n')).length

/-- The start of a line: blank lines are skipped whole, and inside brackets indentation is free. -/
def lineStart (r : Reader) : ReadStep :=
  match margin ⟨0, 0, 0, r.cursor⟩ (r.cursor.rest.length + 1) with
  | .error f => marginFault r f
  | .ok m =>
    let r := { r with cursor := m.cursor, atLineStart := false }
    match m.cursor.peek? with
    | some '#' => .skip { r with cursor := (skipComment m.cursor).step, atLineStart := true }
    | some '\n' => .skip { r with cursor := m.cursor.step, atLineStart := true }
    | _ =>
      if !r.brackets.isEmpty then .skip r
      else if m.continued = 0 then indentTo r m.wide m.narrow
      else indentTo r m.continued m.continued

/-- Reads blanks between tokens. -/
def skipBlanks (c : Cursor) : Nat → Cursor
  | 0 => c
  | fuel + 1 =>
    let c := c.enter
    match c.peek? with
    | some ' ' => skipBlanks c.step fuel
    | some '\t' => skipBlanks c.step fuel
    | some '\x0c' => skipBlanks c.step fuel
    | _ => c

/-- A token of the next `length` characters. -/
def lexeme (r : Reader) (kind : TokenKind) (length : Nat) : Token × Reader :=
  let c := r.cursor
  let c' := c.advance length
  (⟨kind, String.ofList (c.rest.take length), c.place, c.chars, c'.column, r.brackets.length⟩,
    { r with cursor := c' })

/-- A token of the next `length` characters as a step. -/
def lexemeStep (r : Reader) (kind : TokenKind) (length : Nat) : ReadStep :=
  let (t, r) := lexeme r kind length
  .token t r

/-- The length of a string prefix, if a quote follows. -/
def stringPrefix? (cs : List Char) : Option Nat :=
  let letters := (cs.takeWhile Char.isAlpha).take 3
  match cs.drop letters.length with
  | q :: _ =>
    if (q == '\'' || q == '"')
        && ["", "b", "r", "u", "f", "br", "rb", "fr", "rf"].elem (String.ofList letters).toLower
    then some letters.length else none
  | [] => none

/-- The length of a string up to its closing quotes, which are `size` times `quote`; `run` of them have
just been seen. Without closing quotes the answer is the number of characters read and `false`. -/
def stringLength (quote : Char) (size : Nat) (run read : Nat) : List Char → Nat × Bool
  | [] => (read, false)
  | c :: rest =>
    if c == quote then
      if run + 1 = size then (read + 1, true) else stringLength quote size (run + 1) (read + 1) rest
    else if size = 1 && c == '\n' then (read, false)
    else if c == '\\' then
      match rest with
      | _ :: rest' => stringLength quote size 0 (read + 2) rest'
      | [] => (read + 1, false)
    else stringLength quote size 0 (read + 1) rest

/-- The extent of a string literal from its opening quote on, and whether it is a triple one. -/
def stringExtent : List Char → Nat × Bool × Bool
  | q :: q' :: rest =>
    if q' == q then
      match rest with
      | q'' :: rest' =>
        if q'' == q then
          let (n, closed) := stringLength q 3 0 3 rest'
          (n, closed, true)
        else (2, true, false)
      | [] => (2, true, false)
    else
      let (n, closed) := stringLength q 1 0 1 (q' :: rest)
      (n, closed, false)
  | cs => (cs.length, false, false)

/-- A string literal whose prefix has the given length. -/
def stringStep (r : Reader) (letters : Nat) : ReadStep :=
  let (n, closed, triple) := stringExtent (r.cursor.rest.drop letters)
  if closed then lexemeStep r .string (letters + n)
  else
    let last := (r.cursor.advance (letters + n)).line
    let kind := if triple then "unterminated triple-quoted string literal (detected at line "
      else "unterminated string literal (detected at line "
    .fault ⟨true,
      ⟨.syntactic, Text.ofString kind ++ Text.ofNat last ++ ")", r.cursor.line, r.cursor.chars + 1⟩,
      none⟩

/-- The position of the first character that makes a word no identifier. -/
def firstForeign? (word : List Char) : Option Nat :=
  match word with
  | [] => none
  | c :: rest =>
    if !Text.isStart c.toNat then some 0
    else (rest.findIdx? fun d => !Text.isContinue d.toNat).map (· + 1)

/-- The normal form of an identifier. -/
def normalName (word : List Char) : String :=
  Text.toStringLossy (Text.normalize (Text.ofChars word))

/-- A name or a reserved word. -/
def nameStep (r : Reader) : ReadStep :=
  let word := r.cursor.rest.takeWhile Numeral.isNameChar
  match firstForeign? word with
  | some i =>
    let bad := (word.getD i ' ').toNat
    let c := r.cursor.advance (i + 1)
    if Text.isPrintable bad then
      lexicalFault c ("invalid character '" ++ [bad] ++ "' (U+" ++ Text.hexUpper bad ++ ")")
    else lexicalFault c ("invalid non-printable character U+" ++ Text.hexUpper bad)
  | none =>
    let (t, r') := lexeme r .name word.length
    if Text.isKeyword (Text.ofChars word) then .token { t with kind := .keyword } r'
    else .token { t with text := normalName word } r'

/-- The operators of several characters, longer ones first. -/
def longOperators : List (List Char) :=
  ["**=", "//=", ">>=", "<<=", "...", "!=", "%=", "&=", "**", "*=", "+=", "-=", "->", "//", "/=",
    ":=", "<<", "<=", "<>", "==", ">=", ">>", "@=", "^=", "|="].map String.toList

/-- The bracket that a closing one belongs to. -/
def opener : Char → Char
  | ')' => '('
  | ']' => '['
  | _ => '\x7b'

/-- An opening bracket. -/
def openStep (r : Reader) (c : Char) : ReadStep :=
  if 200 ≤ r.brackets.length then lexicalFault r.cursor.step "too many nested parentheses"
  else
    lexemeStep { r with brackets := ⟨c, r.cursor.line, r.cursor.chars⟩ :: r.brackets } .operator 1

/-- A closing bracket. -/
def closeStep (r : Reader) (c : Char) : ReadStep :=
  match r.brackets with
  | [] => lexicalFault r.cursor.step ("unmatched '" ++ [c.toNat] ++ "'")
  | b :: rest =>
    if b.opening == opener c then lexemeStep { r with brackets := rest } .operator 1
    else
      let message := "closing parenthesis '" ++ [c.toNat] ++ "' does not match opening parenthesis '"
        ++ [b.opening.toNat] ++ "'"
      lexicalFault r.cursor.step
        (message ++ Text.when (b.line ≠ r.cursor.line) (" on line " ++ Text.ofNat b.line))

/-- An operator or a bracket. -/
def operatorStep (r : Reader) (c : Char) : ReadStep :=
  match longOperators.find? (·.isPrefixOf r.cursor.rest) with
  | some op => lexemeStep r .operator op.length
  | none =>
    if c == '(' || c == '[' || c == '\x7b' then openStep r c
    else if c == ')' || c == ']' || c == '\x7d' then closeStep r c
    else if Text.isPrintable c.toNat then lexemeStep r .operator 1
    else lexicalFault r.cursor.step ("invalid non-printable character U+" ++ Text.hexUpper c.toNat)

/-- A numeral. -/
def numberStep (r : Reader) : ReadStep :=
  match Numeral.scan r.cursor.rest with
  | .ok n => lexemeStep r .number n
  | .error f => lexicalFault (r.cursor.advance f.read) f.message

/-- The end of a line that is not blank. -/
def newlineStep (r : Reader) (start : Cursor) : ReadStep :=
  let c := r.cursor
  let next := { r with cursor := c.step, atLineStart := true }
  if r.brackets.isEmpty then
    .token ⟨.newline, "", start.place, start.chars, c.column, 0⟩ next
  else .skip next

/-- A token inside a line. -/
def tokenStep (r : Reader) : ReadStep :=
  let c := skipBlanks r.cursor r.cursor.rest.length
  let r := { r with cursor := c }
  match c.rest with
  | [] => if r.brackets.isEmpty then .finish (r.mark .finish) else endFault r
  | x :: rest =>
    if x == '#' then
      let c' := skipComment c
      match c'.rest with
      | [] => .skip { r with cursor := c' }
      | _ => newlineStep { r with cursor := c' } c
    else if x == '\n' then newlineStep r c
    else if x == '\\' then
      match continueLine c with
      | .ok c' => .skip { r with cursor := c'.enterJoined }
      | .error f => marginFault r f
    else match stringPrefix? c.rest with
    | some n => stringStep r n
    | none =>
      if x.isDigit then numberStep r
      else if Numeral.isNameChar x then nameStep r
      else if x == '.' && (rest.head?.map Char.isDigit).getD false then numberStep r
      else operatorStep r x

/-- One reading step: a pending mark, the start of a line, or a token inside it. -/
def next (r : Reader) : ReadStep :=
  if r.pending < 0 then .token (r.mark .dedent) { r with pending := r.pending + 1 }
  else if 0 < r.pending then .token (r.mark .indent) { r with pending := r.pending - 1 }
  else if r.atLineStart then lineStart r
  else tokenStep r

/-- All tokens up to the end or the first fault. -/
def readAll (r : Reader) (done : Array Token) : Nat → Array Token × Option TokenFault
  | 0 => (done, none)
  | fuel + 1 =>
    match r.next with
    | .token t r => readAll r (done.push t) fuel
    | .skip r => readAll r done fuel
    | .finish t => (done.push t, none)
    | .fault f => (done, some f)

end Reader

/-- The tokens of a source and the fault that ended reading, if one did. -/
structure Tokens where
  tokens : Array Token
  fault : Option TokenFault

namespace Tokens

/-- Reads a source. -/
def ofSource (cs : List Char) : Tokens :=
  let (ts, f) := Reader.readAll (.start cs) #[] (4 * cs.length + 8)
  ⟨ts, f⟩

end Tokens

end FluentRecords
