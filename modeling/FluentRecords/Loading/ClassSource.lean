import FluentRecords.Syntax.Source

/-!
The source of a class in a module: found by the qualified name, cut out as a block of lines, and shifted
to the left margin.
-/

namespace FluentRecords

namespace ClassSource

mutual

/-- The line in which the class of a qualified name begins, its decorators included. `path` is what
qualified names begin with here. -/
def lineIn (target path : Text) : Stmt → Option Nat
  | .simple _ _ => none
  | .classDef p n _ _ ds body =>
    if path ++ n = target then some ((ds.head?.map (·.place.line)).getD p.line)
    else lineAmong target (path ++ n ++ ".") body
  | .functionDef _ _ n _ _ _ body => lineAmong target (path ++ n ++ ".<locals>.") body
  | .ifElse _ _ body orelse => (lineAmong target path body).or (lineAmong target path orelse)
  | .forLoop _ _ _ _ body orelse => (lineAmong target path body).or (lineAmong target path orelse)
  | .whileLoop _ _ body orelse => (lineAmong target path body).or (lineAmong target path orelse)
  | .withBlock _ _ _ body => lineAmong target path body
  | .tryBlock _ _ body handlers orelse final =>
    (lineAmong target path body).or ((lineInHandlers target path handlers).or
      ((lineAmong target path orelse).or (lineAmong target path final)))
  | .matchBlock _ _ cases => lineInCases target path cases

/-- The first such line among statements. -/
def lineAmong (target path : Text) : List Stmt → Option Nat
  | [] => none
  | s :: rest => (lineIn target path s).or (lineAmong target path rest)

/-- The first such line in handlers. -/
def lineInHandlers (target path : Text) : List Handler → Option Nat
  | [] => none
  | .mk _ _ body :: rest => (lineAmong target path body).or (lineInHandlers target path rest)

/-- The first such line in cases. -/
def lineInCases (target path : Text) : List MatchCase → Option Nat
  | [] => none
  | .mk _ _ body :: rest => (lineAmong target path body).or (lineInCases target path rest)

end

/-- How far the tokens of a block have been followed: whether its declaration has begun, whether the
rest of a logical line is skipped, how deep its indentation is, and its last line so far. -/
structure Extent where
  begun : Bool
  decorating : Bool
  skipping : Bool
  depth : Int
  last : Nat

/-- Whether a token begins a declaration. -/
def Token.beginsDeclaration (t : Token) : Bool :=
  t.text == "def" || t.text == "class" || t.text == "lambda"

/-- Follows the tokens of a block to its end: the end of its indentation, or further code beside it. -/
def follow (e : Extent) : List Token → Nat
  | [] => e.last
  | t :: rest =>
    if !e.begun && !e.decorating then
      if t.text == "@" then follow { e with decorating := true, skipping := true } rest
      else follow { e with begun := Token.beginsDeclaration t, skipping := true } rest
    else match t.kind with
      | .newline => follow { e with skipping := false, decorating := false, last := t.place.line } rest
      | .indent =>
        if e.skipping then follow e rest
        else follow { e with depth := e.depth + 1, skipping := true } rest
      | .dedent =>
        if e.skipping then follow e rest
        else if e.depth ≤ 1 then e.last
        else follow { e with depth := e.depth - 1 } rest
      | _ =>
        if e.skipping || e.depth != 0 then follow e rest else e.last

/-- The number of lines of the block that a source begins with. -/
def blockLength (cs : List Char) : Nat :=
  follow ⟨false, false, false, 0, 1⟩ (Tokens.ofSource cs).tokens.toList

/-- A blank or a tab. -/
def isBlank (c : CodePoint) : Bool :=
  c == 32 || c == 9

/-- The blanks that a line begins with, if there is more in it. -/
def indentation? (line : Text) : Option Text :=
  if line.all isBlank then none else some (line.takeWhile isBlank)

/-- What two texts begin with in common. -/
def common : Text → Text → Text
  | a :: s, b :: t => if a = b then a :: common s t else []
  | _, _ => []

/-- The blanks that all lines begin with. -/
def margin (lines : List Text) : Text :=
  match lines.filterMap indentation? with
  | [] => []
  | first :: rest => rest.foldl common first

/-- Lines without their common margin; lines of blanks only become empty. -/
def dedent (lines : List Text) : List Text :=
  let m := margin lines
  lines.map fun l => if l.all isBlank then [] else l.drop m.length

/-- Whether a code point is a blank of any kind; line separators count. -/
def isSpace (c : CodePoint) : Bool :=
  (9 ≤ c && c ≤ 13) || (28 ≤ c && c ≤ 32) || c == 0x85 || c == 0xA0 || c == 0x1680
    || (0x2000 ≤ c && c ≤ 0x200A) || c == 0x2028 || c == 0x2029 || c == 0x202F || c == 0x205F
    || c == 0x3000

end ClassSource

/-- The source of a class: the line it begins in, how far its first line is indented, and its lines
without their margin. -/
structure ClassSource where
  firstLine : Nat
  indentation : Nat
  text : Text

/-- Finds the source of a class in a module by its qualified name. -/
def ClassSource.find? (source : Text) (m : Module) (path : Text) : Option ClassSource := do
  let line ← lineAmong path [] m.body
  let lines := (Text.splitLines source).drop (line - 1)
  let rest := Text.join [10] lines
  let block := lines.take (blockLength (Source.closedLines (rest.map Char.ofNat)))
  let first := block.headD []
  some ⟨line, (first.takeWhile isSpace).length, Text.join [10] (dedent block) ++ [10]⟩

end FluentRecords
