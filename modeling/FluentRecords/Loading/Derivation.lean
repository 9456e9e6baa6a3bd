import FluentRecords.Loading.ClassSource
import FluentRecords.Loading.Library

/-!
Deriving builders while a module runs. The settings are those in force with the arguments of the
decorator on top; the class is read from its source again, and its builder is added to the running
module when the class itself belongs to it directly.
-/

namespace FluentRecords

namespace Derive

/-- A message about a class for which nothing can be derived. -/
def underived {α : Type} (name why : Text) : Load α :=
  throw (.underived ("cannot derive builder for " ++ name ++ ": " ++ why) none)

/-- The settings that a module makes itself. -/
def settingsOf (args : List Thing) (keywords : List (Text × Thing)) : Load Thing := do
  if !args.isEmpty then
    Load.fail (.tooManyArguments "BaseModel.__init__" 1 1 (args.length + 1))
  let options ← optionsOf keywords
  match Settings.ofOptions options with
  | .ok s => pure (.settings s)
  | .error fs => throw (.refused fs)
where
  optionsOf : List (Text × Thing) → Load Options
    | [] => pure []
    | (k, .value v) :: rest => do
      let more ← optionsOf rest
      pure ((k, v) :: more)
    | _ :: _ => Load.fail .unsupported

/-- The settings in force with options on top. Anything may stand in the place of settings until they
are used. -/
def effective (base : Thing) (keywords : List (Text × Thing)) : Load Thing := do
  if keywords.isEmpty then pure base
  else
    let unknown := (keywords.map (·.1)).filter fun k => !Settings.keys.elem k
    if !unknown.isEmpty then
      throw (.underived (RequestCause.unknown (Text.sort unknown)).message none)
    let options ← settingsOf.optionsOf keywords
    match base with
    | .settings s =>
      match Settings.ofOptions (Options.override s.toOptions options) with
      | .ok s => pure (.settings s)
      | .error fs => throw (.underived (RequestCause.invalid fs).message none)
    | t => do
      let w ← get
      Load.fail (.noAttribute (w.owner t) "model_dump")

/-- The declaration of a class in its source. -/
def declaration (c : ClassObject) : Load (ClassSource × Stmt) := do
  let w ← get
  let some source := ClassSource.find? w.source w.module c.path
    | underived c.path "source not available"
  match Module.parse source.text with
  | .error (.malformed f) => throw (.malformed f)
  | .error .nullCharacter => throw (.breakdown .nullCharacter)
  | .error (.unencodable f) => throw (.breakdown (.unencodable f))
  | .ok m =>
    match m.body.find? fun s => (s.classDecl?.map (·.name)) == some c.name with
    | some s => pure (source, s)
    | none => underived c.path "class definition not found"

/-- What is generated for a class. A fault is reported at its place in the module. -/
def generate (c : ClassObject) (settings : Thing) : Load (Generated × Settings) := do
  let (source, s) ← declaration c
  match settings with
  | .settings settings =>
    match Expansion.expand settings (.stmt s) with
    | .error f => throw (.breakdown (.unprintable f))
    | .ok e =>
      match e.generated, e.diagnostics with
      | some g, _ => pure (g, settings)
      | none, d :: _ => do
        let d := d.shifted (source.firstLine - 1 : Nat) source.indentation
        throw (.underived (d.render (some moduleFile)) (some d))
      | none, [] => Load.fail .unsupported
  | t => do
    let w ← get
    Load.fail (.noAttribute (w.owner t) "factory_name")

/-- What a qualified name begins with before its last part. -/
def parentPath (path : Text) : Text :=
  ((path.reverse.dropWhile (· != 46)).drop 1).reverse

/-- Checks that what is generated becomes a class. -/
def checkClass (g : Generated) : Load Unit :=
  match BuilderClass.ofDecl g.builder with
  | .ok _ => pure ()
  | .error (.slotClash a) => Load.raise "ValueError" (ClassFault.slotClash a).message
  | .error f => Load.raise "TypeError" f.message

/-- Derives the builder of a class. -/
def deriveClass (settings : Thing) (id : Nat) : Load Thing := do
  let w ← get
  let some c := w.classes[id]? | Load.fail .unsupported
  let (g, settings) ← generate c settings
  checkClass g
  set (w.addBuilder ⟨id, g, settings, parentPath c.path⟩)
  pure (.cls id)

/-- The qualified name of a function. -/
def functionPath (w : World) (id : Nat) : Text :=
  match w.functions[id]? with
  | some f => f.signature.label
  | none => []

/-- Applies the activation decorator to what it stands at. -/
def apply (settings : Thing) (t : Thing) : Load Thing := do
  let w ← get
  match t with
  | .cls id => deriveClass settings id
  | .function id => underived (functionPath w id) "class definition not found"
  | .library .type n => underived n "source not available"
  | .library .fault n => underived n "source not available"
  | .library .form n => underived n "source not available"
  | .library .function n => underived n "source not available"
  | .tool .text => underived "str" "source not available"
  | .tool .type => underived "type" "source not available"
  | .tool .repr => underived "repr" "source not available"
  | .tool .ancestor => underived "super" "source not available"
  | .tool .property => underived "property" "source not available"
  | .tool .namedTuple => underived "NamedTuple" "class definition not found"
  | .tool .dataclass => underived "dataclass" "class definition not found"
  | .tool .field => underived "field" "class definition not found"
  | .tool .derive => underived "derive_builder" "class definition not found"
  | .dataclassWith _ => underived "dataclass.<locals>.wrap" "class definition not found"
  | .activation _ => underived "derive_builder.<locals>.<lambda>" "class definition not found"
  | .bound _ f => underived (functionPath w f) "class definition not found"
  | .builderClass d =>
    underived ((w.derivations[d]?).elim [] Derivation.builderPath) "source not available"
  | .unseen => pure .unseen
  | .staticFactory _ => Load.fail .unsupported
  | t => Load.fail (.noAttribute (w.owner t) "__qualname__")

/-- Calls the activation decorator: with a class it is applied at once, else it waits for one. -/
def activate (args : List Thing) (keywords : List (Text × Thing)) : Load Thing := do
  if 1 < args.length then Load.fail (.tooManyArguments "derive_builder" 0 1 args.length)
  let config := (getThing? keywords configKey).getD .nothing
  let base := if config.truth then config else .settings .default
  let settings ← effective base (keywords.filter (·.1 != configKey))
  match args with
  | [] => pure (.activation settings)
  | .value .none :: _ => pure (.activation settings)
  | t :: _ => apply settings t

end Derive

end FluentRecords
