import FluentRecords.Loading.Call

/-!
Running a module from its source, and trying out the builders derived in it: a record is found by its
name, its factory is called, fields are set, and the record that comes out shows itself.
-/

namespace FluentRecords

namespace World

/-- A module before its first statement. -/
def start (source : Text) (m : Module) : World where
  source := source
  module := m
  lazily := false
  frames := [⟨[], []⟩]
  classes := []
  objects := []
  functions := []
  derivations := []

/-- The names of a module that are not reserved, in order. -/
def publicNames (w : World) : List Text :=
  Text.sort ((w.globals.map (·.1)).filter fun n => !Text.startsWith [95, 95] n)

end World

namespace Loading

/-- How deep calls may be nested. -/
def callDepth : Nat :=
  200

/-- Calls a thing. -/
def callTop : Caller :=
  callThing callDepth

/-- The scope of a module. -/
def moduleScope : Scope :=
  ⟨0, [], [], [], false, none, none⟩

/-- Runs a module. -/
def runModule (m : Module) : Load Unit := do
  match ← execAll callTop moduleScope m.body with
  | .next => pure ()
  | .returned _ => Load.fail .unsupported

/-- Runs the module of a source. -/
def run (source : Text) : Except LoadFault World :=
  match Module.parse source with
  | .error (.malformed f) => .error (.malformed f)
  | .error .nullCharacter => .error (.breakdown .nullCharacter)
  | .error (.unencodable f) => .error (.breakdown (.unencodable f))
  | .ok m =>
    match (runModule m).run (World.start source.lineFeeds m) with
    | (.ok (), w) => .ok w
    | (.error f, _) => .error f

/-- The thing that dotted names lead to. -/
def resolve (names : List Text) : Load Thing := do
  match names with
  | [] => Load.fail .unsupported
  | n :: rest => do
    let w ← get
    match getThing? w.globals n with
    | none => Load.fail (.noAttribute ("module '" ++ moduleName ++ "'") n)
    | some t => rest.foldlM memberOf t

/-- A datum as a thing. -/
def thingOf : Datum → Thing
  | .value v => .value v
  | _ => .unseen

/-- A thing as a datum. -/
def datumOf : Thing → Datum
  | .value v => .value v
  | _ => .support

/-- The fault of an evaluation that a fault of a run is. -/
def evalFaultOf : LoadFault → EvalFault
  | .eval f => f
  | f => .raised ((faultNames f).headD []) (faultMessage f)

/-- The constructor of a record: its attributes in their order. -/
def constructor (w : World) (record : Nat) (fields : List (Text × Datum)) :
    Except EvalFault Datum :=
  let made : Load Thing :=
    construct callTop record [] (fields.map fun (n, d) => (n, thingOf d))
  match made.run w with
  | (.ok (.object id), w) =>
    let attrs := ((w.objects[id]?).map (·.2)).getD []
    .ok (.record (attrs.map fun (n, t) => (n, datumOf t)))
  | (.ok _, _) => .error .unsupported
  | (.error f, _) => .error (evalFaultOf f)

/-- The machine of a derived builder. -/
def machineOf (d : Derivation) : Load Machine := do
  let w ← get
  match Machine.ofGenerated d.generated d.settings (constructor w d.record) with
  | .ok m => pure m
  | .error f => Load.raise "TypeError" f.message

/-- What is seen of a new builder. -/
structure BuilderView where
  name : Text
  path : Text
  published : Bool

/-- Whether a thing is the class of a builder. -/
def isBuilderClass (derivation : Nat) : Thing → Bool
  | .builderClass d => d == derivation
  | _ => false

/-- The view of a builder. -/
def view (w : World) (number : Nat) (d : Derivation) : BuilderView where
  name := d.builderName
  path := d.builderPath
  published := ((getThing? w.globals d.builderName).map (isBuilderClass number)).getD false

/-- What is tried out. -/
structure Probe where
  record : List Text
  factory : Text
  setters : List (Text × Value)
  finalizer : Text

/-- The outcome: the builder if there was one, and either the text of the record or a fault. -/
structure Finding where
  builder : Option BuilderView
  built : Except LoadFault Text

/-- A builder of a derivation with its cells. -/
def createBuilder (d : Derivation) : Load (Machine × Datum × Heap) := do
  let m ← machineOf d
  match (m.create d.settings.factoryName.val).run [] with
  | (.ok b, heap) => pure (m, b, heap)
  | (.error f, _) => Load.fail f

/-- The text of what a finalizer gave. -/
def shownResult (d : Derivation) : Datum → Load Text
  | .record fields => do
    let record ← newObject d.record (fields.map fun (n, d) => (n, thingOf d))
    shown callTop showDepth record
  | .value v => pure v.text
  | _ => Load.fail .unsupported

/-- Sets fields and finalizes. -/
def finish (d : Derivation) (p : Probe) (m : Machine) (b : Datum) (heap : Heap) : Load Text :=
  match (m.sendAll p.finalizer b p.setters).run heap with
  | (.ok r, _) => shownResult d r
  | (.error f, _) => Load.fail f

/-- Finds the derivation whose factory a record has. -/
def findDerivation (p : Probe) : Load (Nat × Derivation) := do
  let t ← resolve p.record
  match ← memberOf t p.factory with
  | .factory number =>
    match (← get).derivations[number]? with
    | some d => pure (number, d)
    | none => Load.fail .unsupported
  | f => do
    let _ ← callTop f [] []
    Load.fail .unsupported

/-- Tries out a builder. -/
def probe (w : World) (p : Probe) : Finding :=
  let first : Load (Nat × Derivation × Machine × Datum × Heap) := do
    let (number, d) ← findDerivation p
    let (m, b, heap) ← createBuilder d
    pure (number, d, m, b, heap)
  match first.run w with
  | (.error f, _) => ⟨none, .error f⟩
  | (.ok (number, d, m, b, heap), w) => ⟨some (view w number d), ((finish d p m b heap).run w).1⟩

end Loading

end FluentRecords
