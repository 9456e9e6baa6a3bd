import FluentRecords.Settings.Options
import FluentRecords.Syntax.Tree

/-!
Records: a name and fields in the order of their declaration. A record has at least one field and no
two of the same name; both are part of its type. Fields start out unclassified; classification tells
for each whether it is required, and what its type is without the optional wrapper.
-/

namespace FluentRecords

/-- How a field behaves when its record is built. -/
inductive FieldKind
  | required
  | optional
deriving DecidableEq

namespace FieldKind

/-- The word for a kind. -/
def text : FieldKind → Text
  | required => "required"
  | optional => "optional"

/-- The kind a word stands for. -/
def ofText? (t : Text) : Option FieldKind :=
  [required, optional].find? (·.text == t)

/-- The report about a value that stands for no kind. -/
def unknownMessage (v : Value) : Text :=
  v.text ++ " is not a valid FieldKind"

end FieldKind

/-- What a field is to the builder: its kind, and its type without the optional wrapper. -/
structure Classification where
  kind : FieldKind
  effective : Expr

/-- A named field with its type as declared and its place. -/
structure Field where
  name : Text
  declared : Expr
  place : Pos
  classification : Option Classification

namespace Field

/-- The kind of a classified field. -/
def kind? (f : Field) : Option FieldKind :=
  f.classification.map Classification.kind

/-- The written form of a field in reports; they cut it off before its type. -/
def text (f : Field) : Text :=
  "FieldSchema(name=" ++ Text.quote f.name ++ ", declared_type=<ast.expr object>, classification="
    ++ (if f.classification.isNone then Text.ofString "None" else Text.ofString "Classification()")
    ++ ", lineno=" ++ Text.ofNat f.place.line ++ ", col_offset=" ++ Text.ofNat f.place.column ++ ")"

end Field

/-- A record. -/
structure Record where
  name : Text
  fields : List Field
  place : Pos
  fields_ne : fields ≠ []
  distinct : (fields.map Field.name).Nodup

/-- Why fields do not make a record. -/
inductive RecordCause
  | empty
  | duplicate (name : Text)

namespace RecordCause

/-- The wording of a cause. -/
def message : RecordCause → Text
  | empty => "Tuple should have at least 1 item after validation, not 0"
  | duplicate n => "Value error, duplicate field name: " ++ n

/-- The short code of a cause. -/
def code : RecordCause → Text
  | empty => "too_short"
  | duplicate _ => "value_error"

end RecordCause

/-- The first name that occurs for the second time. -/
def firstRepeated? (seen : List Text) : List Text → Option Text
  | [] => none
  | n :: rest => if n ∈ seen then some n else firstRepeated? (n :: seen) rest

theorem firstRepeated?_eq_none {seen names : List Text} :
    firstRepeated? seen names = none → names.Nodup ∧ ∀ n ∈ names, n ∉ seen := by
  induction names generalizing seen with
  | nil => simp [firstRepeated?]
  | cons n rest ih =>
    intro h
    unfold firstRepeated? at h
    split at h
    · cases h
    · next fresh =>
      have ⟨nodup, apart⟩ := ih h
      refine ⟨List.nodup_cons.2 ⟨fun there => apart n there List.mem_cons_self, nodup⟩, ?_⟩
      intro m hm
      rcases List.mem_cons.1 hm with rfl | hm
      · exact fresh
      · exact fun there => apart m hm (List.mem_cons_of_mem _ there)

namespace Record

/-- The record of a name and fields. -/
def ofFields (name : Text) (fields : List Field) (place : Pos) : Except RecordCause Record :=
  if nonempty : fields ≠ [] then
    match fresh : firstRepeated? [] (fields.map Field.name) with
    | some n => .error (.duplicate n)
    | none => .ok ⟨name, fields, place, nonempty, (firstRepeated?_eq_none fresh).1⟩
  else .error .empty

/-- The names of the fields. -/
def names (r : Record) : List Text :=
  r.fields.map Field.name

/-- Whether every field is classified. -/
def isClassified (r : Record) : Bool :=
  r.fields.all (·.classification.isSome)

/-- The fields of a kind. -/
def fieldsOf (r : Record) (k : FieldKind) : List Field :=
  r.fields.filter (·.kind? == some k)

/-- Changes every field but not its name. -/
def mapFields (r : Record) (f : Field → Field) (keeps : ∀ x, (f x).name = x.name) : Record where
  name := r.name
  fields := r.fields.map f
  place := r.place
  fields_ne := by simpa using r.fields_ne
  distinct := by
    have same : (r.fields.map f).map Field.name = r.fields.map Field.name := by
      simp [Function.comp_def, keeps]
    rw [same]
    exact r.distinct

end Record

end FluentRecords
