import FluentRecords.Activation.Arguments
import FluentRecords.Session.Step

/-!
Modules as they run: the things names stand for, the classes, functions and objects made so far, and the
faults that end a run. What belongs to other libraries is known by its name only, apart from the few
tools that make classes.
-/

namespace FluentRecords

/-- Tools that a module uses by name and whose work is carried out. -/
inductive Tool
  | dataclass
  | field
  | derive
  | settings
  | namedTuple
  | type
  | repr
  | text
  | ancestor
  | property
  | transparent
deriving DecidableEq

/-- What is known about a thing of another library. -/
inductive LibraryKind
  | type
  | fault
  | form
  | function
  | module
deriving DecidableEq

/-- What an annotation says about the name it stands with. -/
inductive Marker
  | plain
  | classVar
  | initVar
  | keywordOnly
deriving DecidableEq

/-- The options of a data class. -/
structure DataOptions where
  initializer : Bool
  shown : Bool
  byKeyword : Bool
  frozen : Bool

/-- What a name stands for. -/
inductive Thing
  | value (v : Value)
  | many (elems : List Thing)
  | mapping (entries : List (Text × Thing))
  | library (kind : LibraryKind) (name : Text)
  | tool (t : Tool)
  /-- A type with arguments. -/
  | typeForm (marker : Marker)
  | settings (s : Settings)
  /-- An activation decorator that waits for its class. -/
  | activation (config : Thing)
  /-- A data class decorator that waits for its class. -/
  | dataclassWith (o : DataOptions)
  /-- The description of a field: its default, and how it is used if that is said. -/
  | fieldWith (dflt : Option Thing) (initializer shown : Bool) (byKeyword : Option Bool)
  | fault (kind message : Text)
  | cls (id : Nat)
  | object (id : Nat)
  | function (id : Nat)
  | bound (self : Thing) (function : Nat)
  /-- An object as the classes above one see it. -/
  | ancestor (cls : Nat) (self : Thing)
  | factory (derivation : Nat)
  /-- A factory that is not looked up in its class. -/
  | staticFactory (derivation : Nat)
  | builderClass (derivation : Nat)
  /-- Something that is not looked into. -/
  | unseen

/-- A name with an annotation. -/
structure Declared where
  name : Text
  marker : Marker
  type : Expr

/-- A field of a data class. -/
structure DataField where
  name : Text
  dflt : Option Thing
  initializer : Bool
  shown : Bool
  byKeyword : Bool
  /-- Whether the field is kept, and not only handed to the initializer. -/
  kept : Bool

/-- The fields of a class and how it uses them. -/
inductive FieldStyle
  | none
  | data (o : DataOptions) (fields : List DataField)
  | tuple (fields : List (Text × Option Thing))

/-- A class. -/
structure ClassObject where
  name : Text
  path : Text
  bases : List Thing
  attrs : List (Text × Thing)
  declared : List Declared
  style : FieldStyle

/-- A parameter with its default. -/
structure Parameter where
  name : Text
  dflt : Option Thing

/-- What can be handed to a function. -/
structure Signature where
  label : Text
  positional : List Parameter
  regular : List Parameter
  rest : Option Text
  keyword : List Parameter
  keywordRest : Option Text

/-- What a function does: a result, or statements. -/
inductive FunctionBody
  | result (e : Expr)
  | statements (body : List Stmt)

/-- Where code stands: the frame of its names, those around it, the names that it takes from the module,
what qualified names begin with, and the class and the object it belongs to. -/
structure Scope where
  frame : Nat
  outer : List Nat
  globals : List Text
  path : Text
  inFunction : Bool
  owner : Option Nat
  self : Option Thing

namespace Scope

/-- The frame to which a name belongs. -/
def home (sc : Scope) (n : Text) : Nat :=
  if sc.globals.elem n then 0 else sc.frame

/-- The qualified name of a class or a function. -/
def qualified (sc : Scope) (n : Text) : Text :=
  if sc.globals.elem n then n else sc.path ++ n

end Scope

/-- A function and where it was defined. -/
structure FunctionObject where
  signature : Signature
  body : FunctionBody
  scope : Scope

/-- The names of a block, and those with annotations. -/
structure NameFrame where
  names : List (Text × Thing)
  declared : List Declared

/-- A builder derived for a class, and what the qualified name of the class begins with before its last
part. -/
structure Derivation where
  record : Nat
  generated : Generated
  settings : Settings
  parent : Text

namespace Derivation

/-- The name of the builder. -/
def builderName (d : Derivation) : Text :=
  d.generated.builder.name

/-- The qualified name of the builder. -/
def builderPath (d : Derivation) : Text :=
  if d.parent.isEmpty then d.builderName else d.parent ++ "." ++ d.builderName

/-- Whether the factory is called like the builder; made after it, it then takes its place. -/
def hidesBuilder (d : Derivation) : Bool :=
  d.settings.factoryName.val == d.builderName

/-- What stands under the name of the builder once all is made, for a derivation of a number. -/
def published (d : Derivation) (number : Nat) : Thing :=
  if d.hidesBuilder then .staticFactory number else .builderClass number

end Derivation

/-- A module as it runs. The first frame is that of the module. -/
structure World where
  source : Text
  module : Module
  /-- Whether annotations are kept unevaluated. -/
  lazily : Bool
  frames : List NameFrame
  classes : List ClassObject
  objects : List (Nat × List (Text × Thing))
  functions : List FunctionObject
  derivations : List Derivation

/-- What ends a run. -/
inductive LoadFault
  | eval (f : EvalFault)
  /-- No builder is derived; the diagnostic says where in the source that shows. -/
  | underived (message : Text) (diagnostic : Option Diagnostic)
  | refused (faults : List SettingFault)
  | breakdown (b : Breakdown)
  | malformed (f : SyntaxFault)

/-- A part of a run. -/
abbrev Load (α : Type) := ExceptT LoadFault (StateM World) α

/-- The name of the module. -/
def moduleName : Text :=
  "models"

/-- The file of the module. -/
def moduleFile : Text :=
  "models.py"

namespace Load

/-- Ends the run with a fault. -/
def fail {α : Type} (f : EvalFault) : Load α :=
  throw (.eval f)

/-- Ends the run with a fault of a kind. -/
def raise {α : Type} (kind message : Text) : Load α :=
  fail (.raised kind message)

/-- A result or a fault of evaluation. -/
def ofEval {α : Type} : Except EvalFault α → Load α
  | .ok a => pure a
  | .error f => fail f

end Load

/-- Puts a thing under a name, in the place of one that is there. -/
def putThing (n : Text) (t : Thing) : List (Text × Thing) → List (Text × Thing)
  | [] => [(n, t)]
  | (n', t') :: rest => if n' = n then (n, t) :: rest else (n', t') :: putThing n t rest

/-- The thing under a name. -/
def getThing? (names : List (Text × Thing)) (n : Text) : Option Thing :=
  (names.find? (·.1 == n)).map (·.2)

/-- Whether a condition holds on a value. -/
def Value.truth : Value → Bool
  | .none => false
  | .bool b => b
  | .int i => i != 0
  | .float x => !x.same .zero
  | .complex re im => !(re.same .zero && im.same .zero)
  | .str t => !t.isEmpty
  | .bytes bs => !bs.isEmpty
  | .list vs => !vs.isEmpty
  | .tuple vs => !vs.isEmpty
  | .set vs => !vs.isEmpty
  | .dict es => !es.isEmpty
  | .ellipsis => true

namespace Thing

/-- Nothing. -/
def nothing : Thing :=
  .value .none

/-- A text. -/
def str (t : Text) : Thing :=
  .value (.str t)

/-- Whether a condition holds on a thing. -/
def truth : Thing → Bool
  | value v => v.truth
  | many es => !es.isEmpty
  | mapping es => !es.isEmpty
  | _ => true

/-- The value a thing is. -/
def value? : Thing → Option Value
  | value v => some v
  | _ => none

/-- A mapping of names; of values only, it is a value itself. -/
def ofEntries (entries : List (Text × Thing)) : Thing :=
  match entries.mapM fun e => e.2.value?.map fun v => (Value.str e.1, v) with
  | some es => .value (.dict es)
  | none => .mapping entries

/-- A tuple; of values only, it is a value itself. -/
def ofTuple (elems : List Thing) : Thing :=
  match elems.mapM value? with
  | some vs => .value (.tuple vs)
  | none => .many elems

/-- A list; of values only, it is a value itself. -/
def ofList (elems : List Thing) : Thing :=
  match elems.mapM value? with
  | some vs => .value (.list vs)
  | none => .many elems

/-- The entries of a mapping of names. -/
def entries? : Thing → Option (List (Text × Thing))
  | mapping es => some es
  | value (.dict es) => es.mapM fun
    | (.str k, v) => some (k, .value v)
    | _ => none
  | _ => none

/-- The elements of a sequence. -/
def elems? : Thing → Option (List Thing)
  | many es => some es
  | value (.list vs) => some (vs.map .value)
  | value (.tuple vs) => some (vs.map .value)
  | _ => none

/-- What a thing says when it is used as an annotation. -/
def marker : Thing → Marker
  | typeForm m => m
  | library _ n =>
    if n = Text.ofString "ClassVar" then .classVar
    else if n = Text.ofString "InitVar" then .initVar
    else if n = Text.ofString "KW_ONLY" then .keywordOnly
    else .plain
  | _ => .plain

end Thing

namespace World

/-- The classes from which a class inherits, itself first. Bases are older than what inherits from
them, so the number of classes is fuel enough. -/
def lineageWith (w : World) : Nat → Nat → List Nat
  | 0, _ => []
  | fuel + 1, id =>
    match w.classes[id]? with
    | none => []
    | some c =>
      (id :: c.bases.flatMap fun
        | .cls b => lineageWith w fuel b
        | _ => []).eraseDups

/-- The classes from which a class inherits, itself first. -/
def lineage (w : World) (id : Nat) : List Nat :=
  lineageWith w (w.classes.length + 1) id

/-- The classes of a lineage. -/
def lineageClasses (w : World) (id : Nat) : List ClassObject :=
  (w.lineage id).filterMap (w.classes[·]?)

/-- The attribute of a class, its own or an inherited one. -/
def classAttr? (w : World) (id : Nat) (a : Text) : Option Thing :=
  (w.lineageClasses id).findSome? fun c => getThing? c.attrs a

/-- Whether a class inherits from a class of another library. -/
def isForeign (w : World) (id : Nat) : Bool :=
  (w.lineageClasses id).any fun c => c.bases.any fun
    | .cls _ => false
    | .library .type n => n != Text.ofString "object"
    | _ => true

/-- The name of a class. -/
def className (w : World) (id : Nat) : Text :=
  match w.classes[id]? with
  | some c => c.name
  | none => []

/-- The name of a builder class. -/
def builderName (w : World) (derivation : Nat) : Text :=
  match w.derivations[derivation]? with
  | some d => d.builderName
  | none => []

/-- The name of the kind of a thing. -/
def kindName (w : World) : Thing → Text
  | .value v => v.kindName
  | .many _ => "tuple"
  | .mapping _ => "dict"
  | .library .type _ => "type"
  | .library .fault _ => "type"
  | .library .form _ => "_SpecialForm"
  | .library .module _ => "module"
  | .settings _ => configName
  | .fieldWith _ _ _ _ => "Field"
  | .fault k _ => k
  | .cls _ => "type"
  | .builderClass _ => "type"
  | .object id =>
    match w.objects[id]? with
    | some (c, _) => w.className c
    | none => "object"
  | .bound _ _ => "method"
  | .staticFactory _ => "staticmethod"
  | .tool .settings => "ModelMetaclass"
  | .tool .type => "type"
  | .tool .text => "type"
  | .typeForm _ => "_GenericAlias"
  | .ancestor _ _ => "super"
  | _ => "function"

/-- What reports call the owner of an attribute. -/
def owner (w : World) (t : Thing) : Text :=
  match t with
  | .cls id => "type object '" ++ w.className id ++ "'"
  | .builderClass d => "type object '" ++ w.builderName d ++ "'"
  | .library .type n => "type object '" ++ n ++ "'"
  | .library .module n => "module '" ++ n ++ "'"
  | t => "'" ++ w.kindName t ++ "' object"

/-- The names of the module. -/
def globals (w : World) : List (Text × Thing) :=
  match w.frames with
  | f :: _ => f.names
  | [] => []

/-- Makes a class. -/
def addClass (w : World) (c : ClassObject) : World :=
  { w with classes := w.classes ++ [c] }

/-- Changes a class. -/
def modifyClass (w : World) (id : Nat) (f : ClassObject → ClassObject) : World :=
  { w with classes := w.classes.modify id f }

/-- Gives a class the names of its body. -/
def completeClass (w : World) (id : Nat) (f : NameFrame) (style : FieldStyle) : World :=
  w.modifyClass id fun c => { c with attrs := f.names, declared := f.declared, style := style }

/-- Sets an attribute of a class. -/
def setClassAttr (w : World) (id : Nat) (a : Text) (t : Thing) : World :=
  w.modifyClass id fun c => { c with attrs := putThing a t c.attrs }

/-- Binds a name in a frame. -/
def bind (w : World) (frame : Nat) (n : Text) (t : Thing) : World :=
  { w with frames := w.frames.modify frame fun f => { f with names := putThing n t f.names } }

/-- Adds a builder: its class gets the factory, and the module gets the builder of a class that belongs to
it directly. -/
def addBuilder (w : World) (d : Derivation) : World :=
  let number := w.derivations.length
  let w := { w with derivations := w.derivations ++ [d] }
  let w := w.setClassAttr d.record d.settings.factoryName.val (.factory number)
  if d.parent.isEmpty then w.bind 0 d.builderName (d.published number) else w

/-- Takes a name out of a frame. -/
def unbind (w : World) (frame : Nat) (n : Text) : World :=
  { w with frames := w.frames.modify frame fun f => { f with names := f.names.filter (·.1 != n) } }

end World

end FluentRecords
