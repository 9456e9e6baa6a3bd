import FluentRecords.Record.Schema

/-!
Classification of fields. A type is optional if it is written as the wrapper, by its bare name, around
exactly one type; the type inside is taken as it stands. Nothing else is looked through.
-/

namespace FluentRecords

namespace Expr

/-- What a single-argument wrapper is put around. -/
def unwrap? (wrapper : Text) : Expr → Option Expr
  | subscript (name n) index =>
    if n = wrapper then
      match index with
      | tuple _ => none
      | slice _ _ _ => none
      | inner => some inner
    else none
  | _ => none

/-- The classification of a type. -/
def classify (wrapper : Text) (type : Expr) : Classification :=
  match type.unwrap? wrapper with
  | some inner => ⟨.optional, inner⟩
  | none => ⟨.required, type⟩

end Expr

/-- The field classified by its declared type. -/
def Field.classify (wrapper : Text) (f : Field) : Field :=
  { f with classification := some (f.declared.classify wrapper) }

/-- The record with every field classified. -/
def Record.classify (wrapper : Text) (r : Record) : Record :=
  r.mapFields (Field.classify wrapper) fun _ => rfl

end FluentRecords
