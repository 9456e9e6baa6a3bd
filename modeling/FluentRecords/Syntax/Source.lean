import FluentRecords.Syntax.Grammar.Knot

/-!
Reading modules and expressions from source texts.
-/

namespace FluentRecords

/-- Why a source text is not a module or an expression. -/
inductive SourceFault
  | malformed (f : SyntaxFault)
  | unencodable (f : Text.EncodeFault)
  | nullCharacter

namespace Source

/-- Every kind of line end as a line feed. -/
def lineFeeds : List Char → List Char
  | [] => []
  | '\r' :: '\n' :: rest => '\n' :: lineFeeds rest
  | '\r' :: rest => '\n' :: lineFeeds rest
  | c :: rest => c :: lineFeeds rest

/-- The lines of a module. The last line is closed; after a carriage return and a line feed one more,
empty line follows. -/
def closedLines (cs : List Char) : List Char :=
  let translated := lineFeeds cs
  let unclosed := translated.getLast? != some '\n'
  let pair := ['\n', '\r'].isPrefixOf cs.reverse
  if unclosed || pair then translated ++ ['\n'] else translated

/-- The characters of a source text. -/
def characters (t : Text) : Except SourceFault (List Char) :=
  match Text.encodeFault? 0 t with
  | some f => .error (.unencodable f)
  | none => if t.elem 0 then .error .nullCharacter else .ok (t.map Char.ofNat)

/-- Parses the characters of a source. -/
def parseWith {α : Type} (whole : Rules → Parser α) (cs : List Char) : Except SourceFault α :=
  let attempt : Attempt α := ⟨whole Grammar.rules, []⟩
  (attempt.run (Tokens.ofSource cs)).mapError .malformed

end Source

/-- Reads a module. -/
def Module.parse (source : Text) : Except SourceFault Module := do
  let cs ← Source.characters source
  let body ← Source.parseWith Grammar.wholeModule (Source.closedLines cs)
  pure ⟨body⟩

/-- Reads a decorator, which is an expression with a place. -/
def Decorator.parse (source : Text) : Except SourceFault Decorator := do
  let cs ← Source.characters source
  let e ← Source.parseWith Grammar.wholeExpression (Source.lineFeeds cs)
  pure ⟨e.origin.place, e.expr⟩

/-- Reads an expression. -/
def Expr.parse (source : Text) : Except SourceFault Expr := do
  let d ← Decorator.parse source
  pure d.expr

end FluentRecords
