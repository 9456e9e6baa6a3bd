import FluentRecords.Text.Identifier

/-!
The settings of a run: how the generated builder, its factory and its finalizer are named, which name
wraps an optional type, which decorator asks for a builder, and whether all missing fields are reported
or only the first. The types of the names carry their legality, so every settings value is valid.
-/

namespace FluentRecords

/-- A name that generated code may define. -/
abbrev LegalName := { t : Text // Text.isLegalName t = true }

/-- A nonempty text that keeps a name a name when it is appended. -/
def Text.isSuffix (t : Text) : Bool :=
  !t.isEmpty && t.all Text.isContinue

/-- What is appended to a record's name to name its builder. -/
abbrev Suffix := { t : Text // Text.isSuffix t = true }

/-- The settings of a run. -/
structure Settings where
  builderSuffix : Suffix
  factoryName : LegalName
  finalizerName : LegalName
  wrapperName : LegalName
  activationName : LegalName
  collectMissing : Bool
deriving DecidableEq

namespace Settings

/-- The settings in force where none are given. -/
def default : Settings where
  builderSuffix := ⟨Text.ofString "Builder", by decide⟩
  factoryName := ⟨Text.ofString "builder", by decide⟩
  finalizerName := ⟨Text.ofString "build", by decide⟩
  wrapperName := ⟨Text.ofString "Optional", by decide⟩
  activationName := ⟨Text.ofString "derive_builder", by decide⟩
  collectMissing := false

/-- The name of the builder of a record. -/
def builderName (s : Settings) (record : Text) : Text :=
  record ++ s.builderSuffix.val

/-- The members generated code adds under a configurable name. -/
def reservedNames (s : Settings) : List Text :=
  [s.factoryName.val, s.finalizerName.val]

/-- The settings as an object in JSON; names and suffixes hold nothing that needs an escape. -/
def json (s : Settings) : Text :=
  let field (key : String) (t : Text) : Text :=
    [34] ++ Text.ofString key ++ [34, 58, 34] ++ t ++ [34, 44]
  "\x7b" ++ field "builder_suffix" s.builderSuffix.val ++ field "factory_name" s.factoryName.val
    ++ field "finalizer_name" s.finalizerName.val ++ field "wrapper_name" s.wrapperName.val
    ++ field "activation_name" s.activationName.val
    ++ "\"collect_missing\":" ++ (if s.collectMissing then Text.ofString "true" else Text.ofString "false")
    ++ "\x7d"

end Settings

end FluentRecords
