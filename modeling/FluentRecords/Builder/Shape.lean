import FluentRecords.Record.Classification

/-!
The shape of a builder: one slot for each field of its record, in the same order. A slot is stored
under the field's name with an underscore in front.
-/

namespace FluentRecords

/-- A slot of a builder. -/
structure Slot where
  field : Text
  type : Expr
  kind : FieldKind

/-- The attribute a slot is stored under. -/
def Slot.attribute (s : Slot) : Text :=
  95 :: s.field

/-- The shape of a builder. -/
structure BuilderShape where
  builder : Text
  record : Text
  slots : List Slot

/-- The slot of a field; one that is not classified counts as required, with its type as declared. -/
def Field.slot (f : Field) : Slot :=
  match f.classification with
  | some c => ⟨f.name, c.effective, c.kind⟩
  | none => ⟨f.name, f.declared, .required⟩

namespace BuilderShape

/-- The builder for a record. -/
def ofRecord (r : Record) (builder : Text) : BuilderShape :=
  ⟨builder, r.name, r.fields.map Field.slot⟩

/-- The builder for a record, if all fields are classified. -/
def ofClassified? (r : Record) (builder : Text) : Option BuilderShape :=
  if r.isClassified then some (ofRecord r builder) else none

/-- The report about a record that is not classified. -/
def unclassifiedMessage (record : Text) : Text :=
  "record " ++ record ++ " has unclassified fields"

/-- The attributes of the slots. -/
def attributes (b : BuilderShape) : List Text :=
  b.slots.map Slot.attribute

/-- The slots that must be set. -/
def required (b : BuilderShape) : List Slot :=
  b.slots.filter (·.kind = .required)

end BuilderShape

end FluentRecords
