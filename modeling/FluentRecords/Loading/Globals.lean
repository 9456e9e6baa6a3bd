import FluentRecords.Loading.World

/-!
Names that a block takes from the module. What is said about them inside a class or a function counts there only.
-/

namespace FluentRecords

mutual

/-- The names that a statement declares to be those of the module. -/
def Stmt.globals : Stmt → List Text
  | .simple _ (.global names) => names
  | .simple _ _ => []
  | .classDef _ _ _ _ _ _ => []
  | .functionDef _ _ _ _ _ _ _ => []
  | .ifElse _ _ body orelse => globalsAmong body ++ globalsAmong orelse
  | .forLoop _ _ _ _ body orelse => globalsAmong body ++ globalsAmong orelse
  | .whileLoop _ _ body orelse => globalsAmong body ++ globalsAmong orelse
  | .withBlock _ _ _ body => globalsAmong body
  | .tryBlock _ _ body handlers orelse final =>
    globalsAmong body ++ globalsInHandlers handlers ++ globalsAmong orelse ++ globalsAmong final
  | .matchBlock _ _ cases => globalsInCases cases

/-- Those that statements declare. -/
def globalsAmong : List Stmt → List Text
  | [] => []
  | s :: rest => s.globals ++ globalsAmong rest

/-- Those that handlers declare. -/
def globalsInHandlers : List Handler → List Text
  | [] => []
  | .mk _ _ body :: rest => globalsAmong body ++ globalsInHandlers rest

/-- Those that cases declare. -/
def globalsInCases : List MatchCase → List Text
  | [] => []
  | .mk _ _ body :: rest => globalsAmong body ++ globalsInCases rest

end

/-- The names that a function takes from the module. -/
def FunctionBody.globals : FunctionBody → List Text
  | .result _ => []
  | .statements body => globalsAmong body

end FluentRecords
