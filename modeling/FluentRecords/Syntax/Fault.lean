import FluentRecords.Text.Basic

/-!
Faults of a source text: what is wrong, and where. The column counts characters from one; zero stands
for a place before the first character.
-/

namespace FluentRecords

/-- The kinds of faults of a source text. -/
inductive SyntaxKind
  | syntactic
  | indentation
  | tabs
deriving DecidableEq

/-- A fault of a source text. -/
structure SyntaxFault where
  kind : SyntaxKind
  message : Text
  line : Nat
  offset : Nat
deriving DecidableEq

end FluentRecords
