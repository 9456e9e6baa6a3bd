import FluentRecords.Syntax.Grammar.Operator

/-!
Targets: what can be assigned to, looped over, or deleted.
-/

namespace FluentRecords.Grammar

open FluentRecords.Parser

/-- What shows that a value goes on. -/
def goesOn : Parser Token :=
  satisfy fun t => t.kind == .operator && ["(", "[", "."].elem t.text

section

variable (g : Rules)

/-- A value up to the last attribute or subscript, which is the target. -/
def targetPrimary : Parser Parsed := memo .targetPrimary do
  let o ← here
  let continued (p : Parser Parsed) : Parser Parsed := do
    let a ← p
    ahead goesOn
    pure a
  let a ← continued (atom g)
  grow (fun a =>
    continued (attributeOf o a) <|> continued (subscriptOf g o a) <|> continued (callOf g o a)) a

/-- An attribute or a subscript. -/
def placeInside : Parser Parsed := do
  let o ← here
  let a ← targetPrimary g
  let e ← attributeOf o a <|> subscriptOf g o a
  notAhead goesOn
  pure e

/-- A name as a target. -/
def nameTarget : Parser Parsed := do
  let t ← name
  pure (.leaf t.origin (.name (Text.ofString t.text)))

/-- A tuple of targets in parentheses; a single one needs a comma. -/
def targetTuple : Parser Parsed := do
  let o ← here
  let elems ← between "(" (optional (do
    let first ← g .starTarget
    let rest ← many (do
      let _ ← op ","
      g .starTarget)
    let comma ← optional (op ",")
    if rest.isEmpty && comma.isNone then fail else pure (first :: rest))) ")"
  pure (.tuple o (elems.getD []))

/-- A list of targets. -/
def targetList : Parser Parsed := do
  let o ← here
  let elems ← between "[" (optional (commaSeparated (g .starTarget))) "]"
  pure (.list o (elems.getD []))

/-- A target without a star. -/
def plainTarget : Parser Parsed := memo .starAtom
  (placeInside g <|> nameTarget <|> between "(" (g .plainTarget) ")" <|> targetTuple g
    <|> targetList g)

/-- A target, which may be starred once. -/
def starTarget : Parser Parsed := memo .starTarget
  ((do
    let star ← op "*"
    notAhead (op "*")
    let e ← g .starTarget
    pure (.starred star.origin e))
  <|> g .plainTarget)

/-- One target, or several as a tuple. -/
def starTargets : Parser Parsed := do
  let o ← here
  let first ← g .starTarget
  let rest ← many (do
    let _ ← op ","
    g .starTarget)
  let comma ← optional (op ",")
  if rest.isEmpty && comma.isNone then pure first else pure (.tuple o (first :: rest))

/-- The target of an annotation or an augmented assignment. -/
def singleTarget : Parser Parsed :=
  placeInside g <|> nameTarget <|> between "(" (g .singleTarget) ")"

/-- A target of a deletion. -/
def deletionTarget : Parser Parsed := memo .deletionTarget
  (placeInside g <|> nameTarget <|> between "(" (g .deletionTarget) ")"
    <|> (do
      let o ← here
      let elems ← between "(" (optional (commaSeparated (g .deletionTarget))) ")"
      pure (.tuple o (elems.getD [])))
    <|> (do
      let o ← here
      let elems ← between "[" (optional (commaSeparated (g .deletionTarget))) "]"
      pure (.list o (elems.getD []))))

end

end FluentRecords.Grammar
