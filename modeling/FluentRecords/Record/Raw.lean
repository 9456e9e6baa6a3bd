import FluentRecords.Builder.Shape

/-!
Records from raw values. What is wrong with a value is reported in the same form as for settings.
-/

namespace FluentRecords

/-- The report about a value that should be a text. -/
def notTextLines (name : Text) (v : Value) : Text :=
  Refusal.lines name SettingCause.notText.message SettingCause.notText.code v.text v.kindName

namespace Field

/-- A field at the start of a source. The type is the effective one as well if there is a kind. -/
def ofRaw (name : Value) (type : Expr) (kind : Option FieldKind) : Except Text Field :=
  match name with
  | .str n => .ok ⟨n, type, .start, kind.map fun k => ⟨k, type⟩⟩
  | v => .error (Refusal.headline 1 "FieldSchema" ++ notTextLines "name" v)

/-- The written form of fields in reports. -/
def listText : List Field → Text
  | [] => "()"
  | [f] => "(" ++ f.text ++ ",)"
  | fs => "(" ++ Text.join ", " (fs.map text) ++ ")"

end Field

namespace Record

/-- The lines about fields that do not make a record. -/
def causeLines (fields : List Field) (cause : RecordCause) : Text :=
  Refusal.lines "fields" cause.message cause.code (Field.listText fields) "tuple"

/-- A record at the start of a source. -/
def ofRaw (name : Value) (fields : List Field) : Except Text Record :=
  let refuse (count : Nat) (lines : Text) : Except Text Record :=
    .error (Refusal.headline count "RecordSchema" ++ lines)
  match name, ofFields (match name with | .str n => n | _ => []) fields .start with
  | .str _, .ok r => .ok r
  | .str _, .error cause => refuse 1 (causeLines fields cause)
  | v, .ok _ => refuse 1 (notTextLines "name" v)
  | v, .error cause => refuse 2 (notTextLines "name" v ++ causeLines fields cause)

end Record

namespace BuilderShape

/-- The builder of a name for a classified record. -/
def ofRaw (r : Record) (builder : Text) : Except Text BuilderShape :=
  match ofClassified? r builder with
  | some b => .ok b
  | none => .error (unclassifiedMessage r.name)

end BuilderShape

end FluentRecords
