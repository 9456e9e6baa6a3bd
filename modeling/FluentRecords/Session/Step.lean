import FluentRecords.Expansion
import FluentRecords.Session.Evaluation

/-!
Sessions: generated code is set up next to a stand-in for the record, and steps create builders, call
their methods and set their attributes. A failing step is an answer like any other.
-/

namespace FluentRecords

/-- A step of a session. -/
inductive Step
  | create (on : Text)
  | call (on name : Text) (args : List Value)
  | chain (on : Text) (calls : List (Text × Value))
  | assign (on name : Text) (value : Value)
  | describe (on : Text)

/-- Why a step fails. -/
inductive StepFault
  | eval (f : EvalFault)
  | unheld (name : Text)

/-- The answer to a step. -/
inductive StepAnswer
  | created (cls : Text) (fresh : Bool)
  | builder (name : Text)
  | built (fields : List (Text × Datum))
  | result (d : Datum)
  | assigned (name : Text)
  | described (slots : List Text) (doc : Text)
  | failed (f : StepFault)

namespace Machine

/-- The names of a module after the generated code ran in it: the record, the support module, the
builder class and the factory, each hiding an earlier one of its name. -/
def moduleNames (record builder factory : Text) : List (Text × Datum) :=
  [(supportAlias, Datum.support), (builder, .builderClass), (factory, .factory)].foldl
    (fun names (n, d) => Cells.put n d names) [(record, .recordClass)]

/-- The method of a function declaration outside of classes. -/
def functionOf : Stmt → Method
  | .functionDef _ _ n ps _ _ body => ⟨n, BuilderClass.regularNames ps, body⟩
  | _ => ⟨[], [], []⟩

/-- The machine that generated code sets up. -/
def ofGenerated (g : Generated) (settings : Settings)
    (construct : List (Text × Datum) → Except EvalFault Datum) : Except ClassFault Machine := do
  let cls ← BuilderClass.ofDecl g.builder
  .ok { cls := cls
        factory := functionOf g.factory
        globals := moduleNames g.record.name cls.name settings.factoryName.val
        recordName := g.record.name
        construct := construct }

/-- How deep calls may be nested. -/
def depth : Nat :=
  100

/-- Calls a datum. -/
def callTop (m : Machine) : Caller :=
  m.call depth

/-- Calls the factory under its name in the module. -/
def create (m : Machine) (factory : Text) : Run Datum := do
  let f ← m.lookup ⟨false, []⟩ factory
  m.callTop f [] []

/-- Calls a method of an object. -/
def send (m : Machine) (d : Datum) (name : Text) (args : List Datum) : Run Datum := do
  let f ← m.readAttribute d name
  m.callTop f args []

/-- Calls setters one on the result of the other, and then the finalizer. -/
def sendAll (m : Machine) (finalizer : Text) (d : Datum) : List (Text × Value) → Run Datum
  | [] => m.send d finalizer []
  | (n, v) :: rest => do
    let d ← m.send d n [.value v]
    sendAll m finalizer d rest

end Machine

/-- The state of a session: all builders, and those held under a name. -/
structure SessionState where
  heap : Heap
  held : List (Text × Datum)

namespace Session

/-- The constructor of the stand-in: it keeps its keyword arguments in order. Its own first argument is
called `self`. -/
def standIn (fields : List (Text × Datum)) : Except EvalFault Datum :=
  if fields.any (·.1 == Text.ofString "self") then
    .error (.repeatedArgument "record_stub.<locals>.init" "self")
  else .ok (.record fields)

/-- Whether a datum is a given builder. -/
def isBuilder (id : Nat) : Datum → Bool
  | .builder id' => id == id'
  | _ => false

/-- The name under which a builder is held. -/
def nameOf? (held : List (Text × Datum)) (id : Nat) : Option Text :=
  (held.find? fun (_, d) => isBuilder id d).map (·.1)

/-- The answer that shows a datum. -/
def shown (held : List (Text × Datum)) : Datum → StepAnswer
  | .builder id =>
    match nameOf? held id with
    | some n => .builder n
    | none => .result (.builder id)
  | .record fields => .built fields
  | d => .result d

variable (m : Machine) (settings : Settings)

/-- Runs an evaluation on the builders of a session. -/
def running (s : SessionState) (r : Run Datum) (answer : Datum → SessionState → StepAnswer × SessionState) :
    StepAnswer × SessionState :=
  match r.run s.heap with
  | (.ok d, heap) => answer d { s with heap := heap }
  | (.error f, heap) => (.failed (.eval f), { s with heap := heap })

/-- Does something with a held datum. -/
def holding (s : SessionState) (on : Text) (use : Datum → StepAnswer × SessionState) :
    StepAnswer × SessionState :=
  match s.held.find? (·.1 == on) with
  | some (_, d) => use d
  | none => (.failed (.unheld on), s)

/-- Does a step. -/
def step (s : SessionState) : Step → StepAnswer × SessionState
  | .create on =>
    running s (m.create settings.factoryName.val) fun d s =>
      let fresh := match d with
        | .builder id => (nameOf? s.held id).isNone
        | _ => true
      (.created (m.kindName d) fresh, { s with held := Cells.put on d s.held })
  | .call on name args =>
    holding s on fun d =>
      running s (m.send d name (args.map .value)) fun r s => (shown s.held r, s)
  | .chain on calls =>
    holding s on fun d =>
      running s (m.sendAll settings.finalizerName.val d calls) fun r s => (shown s.held r, s)
  | .assign on name value =>
    holding s on fun d =>
      running s (do m.writeAttribute d name (.value value); pure .missing) fun _ s =>
        (.assigned name, s)
  | .describe on =>
    holding s on fun _ => (.described m.cls.slots m.cls.doc, s)

/-- Does steps one after the other. -/
def steps (s : SessionState) : List Step → List StepAnswer
  | [] => []
  | st :: rest =>
    let (a, s) := step m settings s st
    a :: steps s rest

/-- The start of a session: no builders yet. -/
def start : SessionState :=
  ⟨[], []⟩

end Session

end FluentRecords
