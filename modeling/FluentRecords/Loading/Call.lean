import FluentRecords.Loading.Execution

/-!
Calls: functions, classes, which make objects, and the tools that make classes.
-/

namespace FluentRecords

namespace Loading

variable (call : Caller)

/-- Runs the body of a function with its names bound. -/
def runBody (f : FunctionObject) (names : List (Text × Thing)) : Load Thing := do
  let frame ← newFrame names
  let self := (names.head?).map (·.2)
  let sc := { f.scope with frame := frame, self := self }
  match f.body with
  | .result e => eval call sc e
  | .statements body =>
    match ← execAll call sc body with
    | .next => pure .nothing
    | .returned t => pure t

/-- Calls a function. -/
def callFunction (id : Nat) (args : List Thing) (keywords : List (Text × Thing)) : Load Thing := do
  let some f := (← get).functions[id]? | Load.fail .unsupported
  let names ← Load.ofEval (f.signature.bind args keywords)
  runBody call f names

/-- Makes an object without attributes. -/
def newObject (cls : Nat) (attrs : List (Text × Thing)) : Load Thing := do
  let w ← get
  set { w with objects := w.objects ++ [(cls, attrs)] }
  pure (.object w.objects.length)

/-- How a class, its own or one above it, initializes its objects. -/
inductive Initializer
  | function (id : Nat)
  | data (path : Text) (fields : List DataField)
  | tuple (fields : List (Text × Option Thing))

/-- The initializer of a class. -/
def initializer? (w : World) (id : Nat) : Option Initializer :=
  (w.lineageClasses id).findSome? fun c =>
    match getThing? c.attrs "__init__", c.style with
    | some (.function f), _ => some (.function f)
    | _, .data o fields => if o.initializer then some (.data c.path fields) else none
    | _, .tuple fields => some (.tuple fields)
    | _, .none => none

/-- Makes an object of a class. -/
def construct (id : Nat) (args : List Thing) (keywords : List (Text × Thing)) : Load Thing := do
  let w ← get
  match initializer? w id with
  | some (.function f) => do
    let self ← newObject id []
    match ← callFunction call f (self :: args) keywords with
    | .value .none => pure self
    | .unseen => pure self
    | r => Load.fail (.initResult ((← get).kindName r))
  | some (.data path fields) => do
    let self ← newObject id []
    let names ← Load.ofEval ((DataField.signature path fields).bind (self :: args) keywords)
    let kept := fields.filterMap fun f =>
      if f.kept then ((getThing? names f.name).or f.dflt).map fun t => (f.name, t) else none
    kept.forM fun (n, t) => setAttribute self n t
    match w.classAttr? id "__post_init__" with
    | some (.function f) => do
      let handed := (fields.filter (!·.kept)).filterMap fun f => getThing? names f.name
      let _ ← callFunction call f (self :: handed) []
      pure self
    | _ => pure self
  | some (.tuple fields) => do
    let s := NamedTuple.signature (w.className id) fields
    let names ← Load.ofEval (s.bind (.cls id :: args) keywords)
    newObject id (fields.filterMap fun (n, _) => (getThing? names n).map fun t => (n, t))
  | none =>
    if args.isEmpty && keywords.isEmpty || w.isForeign id then newObject id []
    else Load.fail (.noArguments (w.className id))

/-- The truth of a keyword argument. -/
def flag (keywords : List (Text × Thing)) (n : Text) (dflt : Bool) : Bool :=
  ((getThing? keywords n).map Thing.truth).getD dflt

/-- The keyword arguments of the data class decorator. -/
def dataclassKeywords : List Text :=
  (["init", "repr", "eq", "order", "unsafe_hash", "frozen", "match_args", "kw_only", "slots",
    "weakref_slot"] : List String).map Text.ofString

/-- Calls the data class decorator. -/
def callDataclass (args : List Thing) (keywords : List (Text × Thing)) : Load Thing := do
  match (keywords.map (·.1)).find? fun k => !dataclassKeywords.elem k with
  | some k => Load.fail (.unexpectedKeyword "dataclass" k)
  | none =>
    let o : DataOptions :=
      ⟨flag keywords "init" true, flag keywords "repr" true, flag keywords "kw_only" false,
        flag keywords "frozen" false⟩
    match args with
    | [.cls id] => DataClass.apply o id
    | [] => pure (.dataclassWith o)
    | [.value .none] => pure (.dataclassWith o)
    | t :: _ => noAttribute t "__mro__"

/-- The class of a thing. -/
def typeOf (w : World) : Thing → Thing
  | .object id => ((w.objects[id]?).map fun o => Thing.cls o.1).getD .unseen
  | t => .library .type (w.kindName t)

/-- Makes a class from its name, its bases and its attributes. -/
def dynamicClass (name : Text) (bases attrs : Thing) : Load Thing :=
  let entries := (attrs.entries?).getD []
  let declared := (((getThing? entries "__annotations__").bind Thing.entries?).getD []).map
    fun (n, t) => (⟨n, t.marker, .name n⟩ : Declared)
  makeClass ⟨name, name, (bases.elems?).getD [], entries, declared, .none⟩

/-- Calls a tool. -/
def callTool (t : Tool) (args : List Thing) (keywords : List (Text × Thing)) : Load Thing :=
  match t, args with
  | .dataclass, _ => callDataclass args keywords
  | .field, _ =>
    let dflt := (getThing? keywords "default").or
      ((getThing? keywords "default_factory").map fun
        | .library .type n =>
          if n = Text.ofString "list" then .value (.list [])
          else if n = Text.ofString "dict" then .value (.dict [])
          else .unseen
        | _ => .unseen)
    pure (.fieldWith dflt (flag keywords "init" true) (flag keywords "repr" true)
      ((getThing? keywords "kw_only").map Thing.truth))
  | .derive, _ => Derive.activate args keywords
  | .settings, _ => Derive.settingsOf args keywords
  | .type, [t] => do
    let w ← get
    pure (typeOf w t)
  | .type, [.value (.str name), bases, attrs] => dynamicClass name bases attrs
  | .repr, [t] => do
    let s ← shown call showDepth t
    pure (.str s)
  | .text, [t] => do
    let s ← displayedThing call t
    pure (.str s)
  | .text, [] => pure (.str [])
  | .transparent, [t] => pure t
  | _, _ => pure .unseen

/-- Whether a thing derives a builder when it is called. -/
def derives : Thing → Bool
  | .tool .derive => true
  | .activation _ => true
  | _ => false

/-- Calls what belongs to another library. It calls nothing back that derives a builder. -/
def callForeign (args : List Thing) (keywords : List (Text × Thing)) : Load Thing :=
  if (args ++ keywords.map (·.2)).any derives then Load.fail .unsupported else pure .unseen

/-- The message of a fault made with arguments. -/
def faultText (args : List Thing) : Load Text :=
  match args with
  | [] => pure []
  | [t] => displayedThing call t
  | ts => shown call showDepth (.ofTuple ts)

end Loading

/-- Calls a thing. Calls are nested at most as deep as the given number. -/
def Loading.callThing : Nat → Loading.Caller
  | 0 => fun _ _ _ => Load.fail .tooDeep
  | fuel + 1 => fun callee args keywords =>
    match callee with
    | .tool t => callTool (callThing fuel) t args keywords
    | .cls id => construct (callThing fuel) id args keywords
    | .function id => callFunction (callThing fuel) id args keywords
    | .bound self f => callFunction (callThing fuel) f (self :: args) keywords
    | .activation settings =>
      match args with
      | [t] => Derive.apply settings t
      | _ => Load.fail .unsupported
    | .dataclassWith o =>
      match args with
      | [.cls id] => DataClass.apply o id
      | _ => Load.fail .unsupported
    | .library .fault n => do
      let m ← faultText (callThing fuel) args
      pure (.fault n m)
    | .library .form n =>
      Load.raise "TypeError" ("Cannot instantiate typing." ++ n)
    | .library .module _ => Load.fail (.notCallable "module")
    | .library _ _ => callForeign args keywords
    | .factory d => do
      -- a factory that hides its builder calls itself
      if ((← get).derivations[d]?).any Derivation.hidesBuilder then Load.fail .tooDeep
      pure .unseen
    | .staticFactory _ => Load.fail .tooDeep
    | .builderClass _ => pure .unseen
    | .typeForm _ => pure .unseen
    | .unseen => callForeign args keywords
    | t => do
      let w ← get
      Load.fail (.notCallable (w.kindName t))

end FluentRecords
