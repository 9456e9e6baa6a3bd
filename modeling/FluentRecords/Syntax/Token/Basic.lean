import FluentRecords.Syntax.Fault
import FluentRecords.Syntax.Tree

/-!
Tokens, and the position in a source from which the next one is read.
-/

namespace FluentRecords

/-- The kinds of tokens. Reserved words are set apart from names. -/
inductive TokenKind
  | name
  | keyword
  | number
  | string
  | operator
  | newline
  | indent
  | dedent
  | finish
deriving DecidableEq

/-- A token. Marks of indentation and the end have no place of their own; for them `offset` counts the
characters read in the line so far, for every other token the characters up to its first one. `level` is
the number of brackets open after the token. -/
structure Token where
  kind : TokenKind
  text : String
  place : Pos
  offset : Nat
  stop : Nat
  level : Nat

/-- A position in a source. After a line feed the next line begins only when something of it is read,
so the end of the source still belongs to the last line. `joined` counts the characters of the lines
before that a token or a line continuation joins to this one. -/
structure Cursor where
  rest : List Char
  line : Nat
  column : Nat
  chars : Nat
  joined : Nat
  lineEnded : Bool

namespace Cursor

/-- The start of a source. -/
def start (cs : List Char) : Cursor :=
  ⟨cs, 0, 0, 0, 0, true⟩

/-- Goes to the next line if the current one has ended and there is one. -/
def enter (c : Cursor) : Cursor :=
  if c.lineEnded && !c.rest.isEmpty then ⟨c.rest, c.line + 1, 0, 0, 0, false⟩ else c

/-- Goes to the next line like `enter`, as a line that is joined to this one. -/
def enterJoined (c : Cursor) : Cursor :=
  if c.lineEnded && !c.rest.isEmpty then ⟨c.rest, c.line + 1, 0, 0, c.joined + c.chars, false⟩
  else c

/-- Reads one character. -/
def step (c : Cursor) : Cursor :=
  let c := c.enterJoined
  match c.rest with
  | [] => c
  | x :: rest => ⟨rest, c.line, c.column + x.utf8Size, c.chars + 1, c.joined, x == '\n'⟩

/-- Reads a number of characters. -/
def advance (c : Cursor) : Nat → Cursor
  | 0 => c
  | n + 1 => advance c.step n

/-- The next character, if there is one. -/
def peek? (c : Cursor) : Option Char :=
  c.rest.head?

/-- Reads the rest of the line, the line feed included. -/
def skipLine (c : Cursor) : Cursor :=
  c.advance ((c.rest.takeWhile (· != '\n')).length + 1)

/-- The place in the tree of the next character. -/
def place (c : Cursor) : Pos :=
  ⟨c.line, c.column⟩

end Cursor

end FluentRecords
