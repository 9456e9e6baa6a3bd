import FluentRecords.Loading.Evaluation

/-!
Execution of statements: they define names, make classes and import what they need, and the decorators
of a class are applied from the last to the first.
-/

namespace FluentRecords

namespace Loading

variable (call : Caller)

/-- The defaults of parameters. -/
def defaultsOf (sc : Scope) : List Param → Load (List (Text × Thing))
  | [] => pure []
  | .mk n _ (some e) :: rest => do
    let t ← eval call sc e
    let more ← defaultsOf sc rest
    pure ((n, t) :: more)
  | .mk _ _ none :: rest => defaultsOf sc rest

/-- All parameters that can have a default. -/
def optionalParams : Params → List Param
  | .mk positional regular _ keyword _ => positional ++ regular ++ keyword

/-- How a statement ends: the next one follows, or the function returns. -/
inductive Flow
  | next
  | returned (t : Thing)

/-- Whether a target is starred. -/
def isStarred : Expr → Bool
  | .starred _ => true
  | _ => false

/-- A thing that has too few elements for its targets, of which one may be starred. -/
def tooFew (starred : Bool) (targets elems : Nat) : Load (List Thing) :=
  Load.raise "ValueError" ("not enough values to unpack (expected " ++ Text.when starred "at least "
    ++ Text.ofNat targets ++ ", got " ++ Text.ofNat elems ++ ")")

/-- What targets get of a thing: its elements, where these are known. A starred target gets those that the
others leave. -/
def shares (t : Thing) (targets : List Expr) : Load (List Thing) :=
  match t.elems? with
  | none => pure (targets.map fun _ => .unseen)
  | some ts =>
    match targets.findIdx? isStarred with
    | none =>
      if ts.length < targets.length then tooFew false targets.length ts.length
      else if targets.length < ts.length then
        Load.raise "ValueError" ("too many values to unpack (expected " ++ Text.ofNat targets.length ++ ")")
      else pure ts
    | some i =>
      let after := targets.length - i - 1
      if ts.length < i + after then tooFew true (i + after) ts.length
      else
        let left := (ts.drop i).take (ts.length - i - after)
        pure (ts.take i ++ .ofList left :: ts.drop (ts.length - after))

mutual

/-- Binds a target. -/
def assign (sc : Scope) (t : Thing) : Expr → Load Unit
  | .name n => define sc n t
  | .member e a => do
    let o ← eval call sc e
    setAttribute o a t
  | .subscript e i => do
    let _ ← eval call sc e
    let _ ← eval call sc i
    pure ()
  | .starred e => assign sc t e
  | .tuple es => do
    let ts ← shares t es
    assignAll sc ts es
  | .list es => do
    let ts ← shares t es
    assignAll sc ts es
  | _ => Load.fail .unsupported

/-- Binds targets, one after the other. -/
def assignAll (sc : Scope) (ts : List Thing) : List Expr → Load Unit
  | [] => pure ()
  | e :: rest => do
    assign sc (ts.headD .unseen) e
    assignAll sc ts.tail rest

end

/-- Notes the annotation of a name. -/
def declare (sc : Scope) (d : Declared) : Load Unit :=
  modify fun w =>
    { w with frames := w.frames.modify sc.frame fun f =>
        { f with declared := (f.declared.filter (·.name != d.name)) ++ [d] } }

/-- What an annotation says. It is evaluated unless annotations are kept as they are; a text is read as
an expression. -/
def annotationMarker (sc : Scope) (type : Expr) : Load Marker := do
  let w ← get
  if w.lazily then pure (DataClass.markerOfExpr w.globals type)
  else
    match ← eval call sc type with
    | .value (.str t) =>
      match Expr.parse t with
      | .ok e => pure (DataClass.markerOfExpr w.globals e)
      | .error _ => pure .plain
    | t => pure t.marker

/-- An annotated assignment. -/
def annotated (sc : Scope) (target : Expr) (bare : Bool) (type : Expr) (value : Option Expr) :
    Load Unit := do
  match value with
  | some e => do
    let t ← eval call sc e
    assign call sc t target
  | none =>
    match target with
    | .member e _ => do
      let _ ← eval call sc e
      pure ()
    | .subscript e i => do
      let _ ← eval call sc e
      let _ ← eval call sc i
      pure ()
    | _ => pure ()
  if !sc.inFunction then
    let marker ← annotationMarker call sc type
    match target, bare with
    | .name n, true => declare sc ⟨n, marker, type⟩
    | _, _ => pure ()

/-- The first name of a dotted one. -/
def firstName (n : Text) : Text :=
  n.takeWhile (· != 46)

/-- Imports modules. -/
def importModule (sc : Scope) (a : Alias) : Load Unit :=
  if !Library.modules.elem a.name then
    Load.raise "ModuleNotFoundError" ("No module named " ++ Text.quote a.name)
  else match a.asName with
    | some n => define sc n (.library .module a.name)
    | none => define sc (firstName a.name) (.library .module (firstName a.name))

/-- Imports names of a module. -/
def importMembers (sc : Scope) (module : Text) (names : List Alias) : Load Unit := do
  if !Library.modules.elem module then
    Load.raise "ModuleNotFoundError" ("No module named " ++ Text.quote module)
  if module = Text.ofString "__future__" && names.any (·.name == Text.ofString "annotations") then
    modify fun w => { w with lazily := true }
  if names.any (·.name == Text.ofString "*") then Load.fail .unsupported
  names.forM fun a => define sc (a.asName.getD a.name) (Library.member module a.name)

/-- Deletes a name. -/
def delete (sc : Scope) : Expr → Load Unit
  | .name n => do
    let w ← get
    match (w.frames[sc.home n]?).bind fun f => getThing? f.names n with
    | none => Load.fail (.undefined n)
    | some _ => set (w.unbind (sc.home n) n)
  | _ => pure ()

/-- Executes a statement without statements inside. -/
def execSimple (sc : Scope) : SimpleStmt → Load Flow
  | .expression e => do
    let _ ← eval call sc e
    pure .next
  | .assign targets e => do
    let t ← eval call sc e
    targets.forM (assign call sc t)
    pure .next
  | .augmented target op e => do
    let old ← eval call sc target
    let t ← eval call sc e
    let new ← operate op old t
    assign call sc new target
    pure .next
  | .annotated target _ bare type value => do
    annotated call sc target bare type value
    pure .next
  | .delete targets => do
    targets.forM (delete sc)
    pure .next
  | .returnValue none => pure (.returned .nothing)
  | .returnValue (some e) => do
    let t ← eval call sc e
    pure (.returned t)
  | .raiseError (some e) _ => do
    match ← eval call sc e with
    | .fault k m => Load.raise k m
    | .library .fault k => Load.raise k []
    | _ => Load.fail .unsupported
  | .assert test message => do
    let t ← eval call sc test
    if t.truth then pure .next
    else match message with
      | none => Load.raise "AssertionError" []
      | some e => do
        let m ← eval call sc e
        let s ← displayedThing call m
        Load.raise "AssertionError" s
  | .importNames names => do
    names.forM (importModule sc)
    pure .next
  | .importFrom (some m) 0 names => do
    importMembers sc m names
    pure .next
  | .pass => pure .next
  | .global _ => pure .next
  | .nonlocal _ => pure .next
  | _ => Load.fail .unsupported

/-- The decorators of a declaration, the first one first. -/
def decoratorsOf (sc : Scope) : List Decorator → Load (List Thing)
  | [] => pure []
  | d :: rest => do
    let t ← eval call sc d.expr
    let more ← decoratorsOf sc rest
    pure (t :: more)

/-- Applies decorators, the last one first. -/
def decorate (t : Thing) (decorators : List Thing) : Load Thing :=
  decorators.reverse.foldlM (fun t d => call d [t] []) t

/-- The names that a fault is caught under. -/
def faultNames : LoadFault → List Text
  | .underived _ _ => ["DeriveError", "TypeError", "Exception", "BaseException"]
  | .refused _ => ["ValidationError", "ValueError", "Exception", "BaseException"]
  | .eval f => [f.kindName, "Exception", "BaseException"]
  | .breakdown _ => ["Exception", "BaseException"]
  | .malformed _ => ["SyntaxError", "Exception", "BaseException"]

/-- The message of a fault. -/
def faultMessage : LoadFault → Text
  | .underived m _ => m
  | .refused fs => SettingFault.report fs
  | .eval f => f.message
  | .breakdown b => b.message
  | .malformed f => f.message

/-- Whether a handler is for a fault. -/
def handles (f : LoadFault) : Thing → Bool
  | .library _ n => (faultNames f).elem n
  | .many ts => ts.any fun
    | .library _ n => (faultNames f).elem n
    | _ => false
  | _ => false

mutual

/-- Executes a statement. -/
def exec (sc : Scope) : Stmt → Load Flow
  | .simple _ s => execSimple call sc s
  | .functionDef _ _ n ps _ ds body => do
    let decorators ← decoratorsOf call sc ds
    let defaults ← defaultsOf call sc (optionalParams ps)
    let f ← makeFunction sc n ps defaults (.statements body)
    let t ← decorate call f decorators
    define sc n t
    pure .next
  | .classDef _ n bases keywords ds body => do
    let decorators ← decoratorsOf call sc ds
    let bs ← evalArgs call sc bases
    let _ ← evalKeywords call sc keywords
    let path := sc.qualified n
    let frame ← newFrame []
    let owner := (← get).classes.length
    modify (·.addClass ⟨n, path, bs, [], [], .none⟩)
    let inner : Scope := ⟨frame, enclosing sc, globalsAmong body, path ++ ".", false, some owner, none⟩
    let .next ← execAll inner body | Load.fail .unsupported
    let some f := (← get).frames[frame]? | Load.fail .unsupported
    if f.names.any (identity.elem ·.1) then Load.fail .unsupported
    let style ← if bs.any Thing.isNamedTuple then
        FieldStyle.tuple <$> NamedTuple.fields f.names f.declared
      else pure .none
    modify (·.completeClass owner f style)
    let t ← decorate call (.cls owner) decorators
    define sc n t
    pure .next
  | .ifElse _ test body orelse => do
    let t ← eval call sc test
    if t.truth then execAll sc body else execAll sc orelse
  | .forLoop _ _ target iter body orelse => do
    let t ← eval call sc iter
    match t.elems? with
    | none => Load.fail .unsupported
    | some ts => do
      let flow ← ts.foldlM (fun flow t =>
        match flow with
        | .returned r => pure (.returned r)
        | .next => do
          assign call sc t target
          execAll sc body) Flow.next
      match flow with
      | .next => execAll sc orelse
      | .returned r => pure (.returned r)
  | .withBlock _ _ items body => do
    items.forM fun i => do
      let t ← eval call sc i.context
      match i.target with
      | some target => assign call sc t target
      | none => pure ()
    execAll sc body
  | .tryBlock _ _ body handlers orelse final => do
    let attempt : Load Flow := do
      match ← execAll sc body with
      | .next => execAll sc orelse
      | .returned r => pure (.returned r)
    let outcome : Except LoadFault Flow ←
      tryCatch (Except.ok <$> tryCatch attempt fun f => execHandlers sc f handlers)
        fun f => pure (Except.error f)
    match ← execAll sc final, outcome with
    | .returned r, _ => pure (.returned r)
    | .next, .ok flow => pure flow
    | .next, .error f => throw f
  | _ => Load.fail .unsupported

/-- Executes statements one after the other. -/
def execAll (sc : Scope) : List Stmt → Load Flow
  | [] => pure .next
  | s :: rest => do
    match ← exec sc s with
    | .next => execAll sc rest
    | .returned t => pure (.returned t)

/-- Executes the first handler for a fault; without one the run ends. -/
def execHandlers (sc : Scope) (f : LoadFault) : List Handler → Load Flow
  | [] => throw f
  | .mk type name body :: rest => do
    let fits ← match type with
      | none => pure true
      | some e => do
        let t ← eval call sc e
        pure (handles f t)
    if !fits then execHandlers sc f rest
    else match name with
      | none => execAll sc body
      | some n => do
        define sc n (.fault ((faultNames f).headD []) (faultMessage f))
        let flow ← execAll sc body
        delete sc (.name n)
        pure flow

end

end Loading

end FluentRecords
