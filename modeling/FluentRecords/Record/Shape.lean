import FluentRecords.Record.Classification
import FluentRecords.Syntax.Printer.Stmt

/-!
The shape of record declarations: a class whose annotated assignments are its fields. Everything that
rules a declaration out has a cause and a place; where several causes apply, the one that comes first
in the declaration counts, and only then what concerns the declaration as a whole.
-/

namespace FluentRecords

/-- Why a declaration does not get a builder. -/
inductive ShapeCause
  | notClass (found : Text)
  | enumeration (name : Text)
  | unnamedField (record : Text) (target : Expr)
  | hiddenField (field : Text)
  | reservedField (field : Text)
  | repeatedField (record field : Text) (firstLine : Nat)
  | storageClash (record field : Text)
  | noFields (record : Text)
  | invalidRecord (record : Text) (cause : RecordCause)

/-- A cause and its place. -/
structure ShapeFault where
  cause : ShapeCause
  place : Pos

/-- The wording of a cause. -/
def ShapeCause.message : ShapeCause → Rendering
  | notClass found => .ok ("builder can only be derived for class declarations, found " ++ found)
  | enumeration name => .ok ("builder cannot be derived for enum '" ++ name ++ "'")
  | unnamedField record target => do
    let t ← target.text
    .ok ("unsupported field target '" ++ t ++ "' in " ++ record)
  | hiddenField field =>
    .ok ("field '" ++ field ++ "': names starting with '__' are not supported")
  | reservedField field =>
    .ok ("field '" ++ field ++ "' collides with a generated member of the same name")
  | repeatedField record field firstLine =>
    .ok ("duplicate field '" ++ field ++ "' in " ++ record ++ " (first declared on line "
      ++ Text.ofNat firstLine ++ ")")
  | storageClash record field =>
    .ok ("field '" ++ field ++ "' in " ++ record ++ " collides with the builder storage of field '"
      ++ field.drop 1 ++ "'")
  | noFields record =>
    .ok ("record '" ++ record ++ "' has no named fields; declare fields as 'name: type'")
  | invalidRecord record cause => .ok ("invalid record '" ++ record ++ "': " ++ cause.message)

/-- The last name of a name with attributes. -/
def Expr.lastName? : Expr → Option Text
  | name n => some n
  | member _ a => some a
  | _ => none

/-- The bases that make a class an enumeration. -/
def enumBases : List Text :=
  ["Enum", "IntEnum", "StrEnum", "Flag", "IntFlag"]

/-- Whether a class has one of the enumeration bases. -/
def ClassDecl.isEnum (c : ClassDecl) : Bool :=
  c.bases.any fun b => (b.lastName?.map (enumBases.elem ·)).getD false

/-- The annotations that mark what belongs to the class and is no field. -/
def markerNames : List Text :=
  ["ClassVar", "KW_ONLY"]

/-- Whether an annotation is a marker, with or without a subscript. -/
def Expr.isMarker (type : Expr) : Bool :=
  let target := match type with
    | subscript value _ => value
    | e => e
  (target.lastName?.map (markerNames.elem ·)).getD false

/-- The members every builder has. -/
def builderMembers : List Text :=
  ["__init__", "__slots__"]

/-- An annotated assignment: its place, its target with a place of its own, and its annotation. -/
structure FieldDecl where
  place : Pos
  target : Expr
  targetAt : Pos
  type : Expr

/-- The annotated assignment a statement is. -/
def Stmt.fieldDecl? : Stmt → Option FieldDecl
  | simple place (.annotated target targetAt _ type _) =>
    some ⟨place, target, targetAt, type⟩
  | _ => none

/-- A field and the place of its name. -/
structure PlacedField where
  field : Field
  nameAt : Pos

namespace PlacedField

/-- The name of the field. -/
def name (p : PlacedField) : Text :=
  p.field.name

/-- The line in which a name was first declared. -/
def firstLine? (fields : List PlacedField) (n : Text) : Option Nat :=
  (fields.find? (·.name == n)).map (·.nameAt.line)

end PlacedField

/-- What is wrong with a further field of a name. -/
def fieldCause? (record : Text) (reserved : List Text) (before : List PlacedField) (n : Text) :
    Option ShapeCause :=
  if Text.startsWith "__" n then some (.hiddenField n)
  else if reserved.elem n || builderMembers.elem n then some (.reservedField n)
  else (PlacedField.firstLine? before n).map (.repeatedField record n)

/-- The fields of declarations that follow others, up to the first fault. -/
def collectFields (record : Text) (reserved : List Text) (before : List PlacedField) :
    List FieldDecl → Except ShapeFault (List PlacedField)
  | [] => .ok before
  | d :: rest =>
    match d.target with
    | .name n =>
      if d.type.isMarker then collectFields record reserved before rest
      else match fieldCause? record reserved before n with
        | some cause => .error ⟨cause, d.targetAt⟩
        | none =>
          collectFields record reserved (before ++ [⟨⟨n, d.type, d.place, none⟩, d.targetAt⟩]) rest
    | target => .error ⟨.unnamedField record target, d.targetAt⟩

/-- The first field named like the slot of another one. -/
def storageClash? (fields : List PlacedField) : Option PlacedField :=
  fields.find? fun p =>
    match p.name with
    | 95 :: n => (fields.map PlacedField.name).elem n
    | _ => false

namespace ClassDecl

/-- The fields of a class declaration. -/
def fields (c : ClassDecl) (reserved : List Text) : Except ShapeFault (List Field) := do
  let placed ← collectFields c.name reserved [] (c.body.filterMap Stmt.fieldDecl?)
  match storageClash? placed with
  | some p => .error ⟨.storageClash c.name p.name, p.nameAt⟩
  | none => .ok (placed.map PlacedField.field)

/-- The record of a class declaration; its fields are not classified. -/
def record (c : ClassDecl) (reserved : List Text) : Except ShapeFault Record :=
  if c.isEnum then .error ⟨.enumeration c.name, c.place⟩
  else do
    let fs ← c.fields reserved
    if fs.isEmpty then .error ⟨.noFields c.name, c.place⟩
    else (Record.ofFields c.name fs c.place).mapError fun cause =>
      ⟨.invalidRecord c.name cause, c.place⟩

end ClassDecl

/-- What a builder is asked for: a statement, or a module as a whole. -/
inductive Declaration
  | stmt (s : Stmt)
  | module

namespace Declaration

/-- The place of a declaration. -/
def place : Declaration → Pos
  | stmt s => s.place
  | module => .start

/-- The name of a declaration. -/
def name? : Declaration → Option Text
  | stmt s => s.declaredName?
  | module => none

/-- The description of a declaration that is no class. -/
def describe : Declaration → Text
  | stmt (.functionDef _ _ n _ _ _ _) => "function '" ++ n ++ "'"
  | stmt (.simple _ (.assign _ _)) => "assignment"
  | stmt (.simple _ (.annotated _ _ _ _ _)) => "assignment"
  | stmt s => s.kindName
  | module => "Module"

/-- The class declaration that a declaration is. -/
def classDecl? : Declaration → Option ClassDecl
  | stmt s => s.classDecl?
  | module => none

/-- The record of a declaration. -/
def record (d : Declaration) (reserved : List Text) : Except ShapeFault Record :=
  match d.classDecl? with
  | some c => c.record reserved
  | none => .error ⟨.notClass d.describe, d.place⟩

end Declaration

end FluentRecords
