import FluentRecords.Loading.Effects
import FluentRecords.Loading.Globals
import FluentRecords.Loading.Operation
import FluentRecords.Loading.Show

/-!
Evaluation of expressions. Only what modules of records do is carried out; of anything else the result is
not looked into.
-/

namespace FluentRecords

namespace Loading

/-- The parameters of a function, with the defaults they were given. -/
def signatureOf (label : Text) (ps : Params) (defaults : List (Text × Thing)) : Signature :=
  let parameter (p : Param) : Parameter := ⟨p.name, getThing? defaults p.name⟩
  match ps with
  | .mk positional regular rest keyword keywordRest =>
    ⟨label, positional.map parameter, regular.map parameter, rest.map Param.name,
      keyword.map parameter, keywordRest.map Param.name⟩

/-- The scopes whose names the code of a function sees: classes are passed over. -/
def enclosing (sc : Scope) : List Nat :=
  if sc.inFunction then sc.frame :: sc.outer else sc.outer

/-- Makes a function. -/
def makeFunction (sc : Scope) (name : Text) (ps : Params) (defaults : List (Text × Thing))
    (body : FunctionBody) : Load Thing := do
  let label := sc.qualified name
  let inner : Scope :=
    ⟨0, enclosing sc, body.globals, label ++ ".<locals>.", true, sc.owner, none⟩
  let w ← get
  set { w with functions := w.functions ++ [FunctionObject.mk (signatureOf label ps defaults) body inner] }
  pure (.function w.functions.length)

variable (call : Caller)

mutual

/-- The thing that an expression gives. -/
def eval (sc : Scope) : Expr → Load Thing
  | .name n => lookup sc n
  | .constant c => pure (.value (Value.ofConstant c))
  | .formatted parts => do
    let t ← evalParts sc parts
    pure (.str t)
  | .tuple es => do
    let ts ← evalAll sc es
    pure (.ofTuple ts)
  | .list es => do
    let ts ← evalAll sc es
    pure (.ofList ts)
  | .set es => do
    let ts ← evalAll sc es
    setOf ts
  | .dict items => do
    let es ← evalItems sc items
    mappingOf es
  | .member e a => do
    let t ← eval sc e
    match ← memberOf t a with
    | .bound (.fault k m) f => call (.function f) [.fault k m] []
    | t => pure t
  | .subscript e i => do
    let t ← eval sc e
    let _ ← eval sc i
    pure (match t with
      | .library _ _ => .typeForm t.marker
      | .tool _ => .typeForm .plain
      | .cls _ => .typeForm .plain
      | _ => .unseen)
  | .slice lower upper step => do
    evalOption sc lower
    evalOption sc upper
    evalOption sc step
    pure .unseen
  | .starred e => eval sc e
  | .call f args keywords => do
    let callee ← eval sc f
    let as ← evalArgs sc args
    let ks ← evalKeywords sc keywords
    match callee, sc.owner, sc.self, as with
    | .tool .ancestor, some c, some self, [] => pure (.ancestor c self)
    | _, _, _, _ => call callee as ks
  | .unary op e => do
    let t ← eval sc e
    pure (match op, t with
      | .not, t => .value (.bool !t.truth)
      | .minus, .value v => (v.negated?).elim .unseen .value
      | .plus, t => t
      | _, _ => .unseen)
  | .binary op l r => do
    let a ← eval sc l
    let b ← eval sc r
    operate op a b
  | .bool op es => evalBool sc op es
  | .compare l [.mk op r] => do
    let a ← eval sc l
    let b ← eval sc r
    compare op a b
  | .conditional test body orelse => do
    let t ← eval sc test
    if t.truth then eval sc body else eval sc orelse
  | .lambda ps e => makeFunction sc "<lambda>" ps [] (.result e)
  | .named (.name n) e => do
    let t ← eval sc e
    define sc n t
    pure t
  | e => if e.acts then Load.fail .unsupported else pure .unseen

/-- Evaluates an expression that need not be there. -/
def evalOption (sc : Scope) : Option Expr → Load Unit
  | none => pure ()
  | some e => do
    let _ ← eval sc e
    pure ()

/-- The things that expressions give. -/
def evalAll (sc : Scope) : List Expr → Load (List Thing)
  | [] => pure []
  | e :: rest => do
    let t ← eval sc e
    let more ← evalAll sc rest
    pure (t :: more)

/-- The things that arguments give; a starred one gives its elements. -/
def evalArgs (sc : Scope) : List Expr → Load (List Thing)
  | [] => pure []
  | .starred e :: rest => do
    let t ← eval sc e
    let more ← evalArgs sc rest
    pure ((t.elems?).getD [] ++ more)
  | e :: rest => do
    let t ← eval sc e
    let more ← evalArgs sc rest
    pure (t :: more)

/-- The things that keyword arguments give; one without a name gives its entries. -/
def evalKeywords (sc : Scope) : List Keyword → Load (List (Text × Thing))
  | [] => pure []
  | .mk name _ e :: rest => do
    let t ← eval sc e
    let more ← evalKeywords sc rest
    match name with
    | some n => pure ((n, t) :: more)
    | none => pure ((t.entries?).getD [] ++ more)

/-- The entries of a mapping. -/
def evalItems (sc : Scope) : List DictItem → Load (List (Thing × Thing))
  | [] => pure []
  | .entry k v :: rest => do
    let a ← eval sc k
    let b ← eval sc v
    let more ← evalItems sc rest
    pure ((a, b) :: more)
  | .unpack e :: rest => do
    let t ← eval sc e
    let more ← evalItems sc rest
    pure (((t.entries?).getD []).map (fun (k, t) => (.str k, t)) ++ more)

/-- The text of parts of a formatted string. -/
def evalParts (sc : Scope) : List FormatPart → Load Text
  | [] => pure []
  | .literal t :: rest => do
    let more ← evalParts sc rest
    pure (t ++ more)
  | .field e conversion :: rest => do
    let t ← eval sc e
    let s ← if conversion = some .repr then shown call showDepth t else displayedThing call t
    let more ← evalParts sc rest
    pure (s ++ more)
  | .fieldWith _ _ _ :: _ => Load.fail .unsupported

/-- The first operand that decides. -/
def evalBool (sc : Scope) (op : BoolOp) : List Expr → Load Thing
  | [] => pure .nothing
  | [e] => eval sc e
  | e :: rest => do
    let t ← eval sc e
    if t.truth == (op == .or) then pure t else evalBool sc op rest

end

end Loading

end FluentRecords
