import FluentRecords.Syntax.Printer.Expr
import FluentRecords.Syntax.Source

/-!
Breakdowns: what ends a run without a result and without a diagnostic.
-/

namespace FluentRecords

/-- What ends a run. -/
inductive Breakdown
  /-- A tree has no text. -/
  | unprintable (f : PrintFault)
  /-- A value of a kind is used as a key or as a member of a set. -/
  | unhashable (kind : Text)
  /-- A value of a kind is given where settings by name are expected. -/
  | notMapping (kind : Text)
  /-- Settings are given under a key that is no text. -/
  | keysNotText
  /-- An integer is too large for a number with an imaginary part. -/
  | hugeInteger
  /-- A source has no UTF-8 form. -/
  | unencodable (f : Text.EncodeFault)
  /-- A source holds a NUL character. -/
  | nullCharacter

/-- The wording of a breakdown. -/
def Breakdown.message : Breakdown → Text
  | unprintable f => f.message
  | unhashable kind => "unhashable type: '" ++ kind ++ "'"
  | notMapping kind =>
    "recordbuilder.config.GeneratorConfig() argument after ** must be a mapping, not " ++ kind
  | keysNotText => "keywords must be strings"
  | hugeInteger => "int too large to convert to float"
  | unencodable f => f.message
  | nullCharacter => "source code string cannot contain null bytes"

/-- A rendering whose fault ends the run. -/
def Rendering.orBreakdown {α : Type} (r : Except PrintFault α) : Except Breakdown α :=
  r.mapError .unprintable

end FluentRecords
