import FluentRecords.Session.BuilderClass

/-!
Evaluation of generated code. Builders are objects with one cell for each stored slot; all cells start
out empty. Names are looked up among the local ones first and then among those of the module, where a
later definition hides an earlier one. A class may define a name that takes the place of reading or
setting attributes or of making builders: a slot or a finalizer of such a name cannot do that, so
every use of it fails. What a call did before it failed stays done.
-/

namespace FluentRecords

/-- What generated code handles: values, the mark of a slot that was not set, builders, records, and
what the names of the module stand for. -/
inductive Datum
  | value (v : Value)
  | missing
  | builder (id : Nat)
  | record (fields : List (Text × Datum))
  | support
  | recordClass
  | builderClass
  | factory
  | reporter
  | report (names : List Text)
  | method (id : Nat) (name : Text)
  | classMethod (name : Text)
  | descriptor (slot : Text)

/-- The text of the mark of a slot that was not set. -/
def Datum.missingText : Text :=
  "MISSING"

/-- Why an evaluation fails. `kind` is the name of the kind of an object. -/
inductive EvalFault
  | missingFields (names : List Text)
  | noAttribute (owner attr : Text)
  | readOnly (kind attr : Text)
  | undefined (name : Text)
  | notCallable (kind : Text)
  | missingArguments (function : Text) (byKeyword : Bool) (params : List Text)
  | tooManyArguments (function : Text) (least most given : Nat)
  | noArguments (kind : Text)
  | unexpectedKeyword (function name : Text)
  | repeatedArgument (function name : Text)
  | initResult (kind : Text)
  | dictionarySlot (kind : Text)
  | weakSlot (kind : Text)
  | tooDeep
  | unsupported
  /-- Whatever code of the record's own module raised. -/
  | raised (kind message : Text)

namespace EvalFault

/-- The report about fields that were not set. -/
def missingText : List Text → Text
  | [] => "MissingFieldError needs at least one field name"
  | [n] => "missing required field: " ++ n
  | ns => "missing required fields: " ++ Text.join ", " ns

/-- Names in quotation marks, the last one after the word `and`. -/
def enumeration (names : List Text) : Text :=
  let quoted := names.map fun n => [39] ++ n ++ [39]
  match quoted with
  | [a, b] => a ++ " and " ++ b
  | _ =>
    if quoted.length ≤ 2 then Text.join ", " quoted
    else Text.join ", " quoted.dropLast ++ ", and " ++ quoted.getLastD []

/-- The name of the kind of a fault. -/
def kindName : EvalFault → Text
  | missingFields ns => if ns.isEmpty then "TypeError" else "MissingFieldError"
  | noAttribute _ _ => "AttributeError"
  | readOnly _ _ => "AttributeError"
  | weakSlot _ => "AttributeError"
  | undefined _ => "NameError"
  | tooDeep => "RecursionError"
  | raised k _ => k
  | _ => "TypeError"

/-- The wording of a fault. -/
def message : EvalFault → Text
  | missingFields ns => missingText ns
  | noAttribute owner a => owner ++ " has no attribute '" ++ a ++ "'"
  | readOnly k a => "'" ++ k ++ "' object attribute '" ++ a ++ "' is read-only"
  | undefined n => "name '" ++ n ++ "' is not defined"
  | notCallable k => "'" ++ k ++ "' object is not callable"
  | missingArguments f byKeyword ps =>
    f ++ "() missing " ++ Text.ofNat ps.length ++ " required "
      ++ (if byKeyword then "keyword-only" else "positional") ++ " argument"
      ++ Text.when (ps.length != 1) "s" ++ ": " ++ enumeration ps
  | tooManyArguments f least most given =>
    f ++ "() takes " ++ Text.when (least != most) ("from " ++ Text.ofNat least ++ " to ")
      ++ Text.ofNat most ++ " positional argument" ++ Text.when (least != most || most != 1) "s"
      ++ " but " ++ Text.ofNat given ++ (if given = 1 then " was given" else " were given")
  | noArguments k => k ++ "() takes no arguments"
  | unexpectedKeyword f n => f ++ "() got an unexpected keyword argument '" ++ n ++ "'"
  | repeatedArgument f n => f ++ "() got multiple values for argument '" ++ n ++ "'"
  | initResult k => "__init__() should return None, not '" ++ k ++ "'"
  | dictionarySlot k => "__dict__ must be set to a dictionary, not a '" ++ k ++ "'"
  | weakSlot k => "attribute '__weakref__' of '" ++ k ++ "' objects is not writable"
  | tooDeep => "maximum recursion depth exceeded while calling a Python object"
  | unsupported => "unsupported"
  | raised _ m => m

end EvalFault

/-- The cells of an object, by attribute. -/
abbrev Cells := List (Text × Datum)

/-- Fills a cell. -/
def Cells.put (a : Text) (d : Datum) : Cells → Cells
  | [] => [(a, d)]
  | (a', d') :: rest => if a' = a then (a, d) :: rest else (a', d') :: put a d rest

/-- The content of a cell. -/
def Cells.get? (cells : Cells) (a : Text) : Option Datum :=
  (cells.find? (·.1 == a)).map (·.2)

/-- All builders, by number. -/
abbrev Heap := List Cells

/-- An evaluation: it may fail, and what it did to the builders stays. -/
abbrev Run (α : Type) := ExceptT EvalFault (StateM Heap) α

/-- What generated code runs in: its class, its factory, the names of its module, the name of the
record, and how a record is constructed. -/
structure Machine where
  cls : BuilderClass
  factory : Method
  globals : List (Text × Datum)
  recordName : Text
  construct : List (Text × Datum) → Except EvalFault Datum

/-- The names of a call and the values they stand for. -/
abbrev Locals := List (Text × Datum)

/-- Where code stands: its local names, and whether it is inside the builder class. -/
structure Frame where
  inClass : Bool
  locals : Locals

namespace Machine

variable (m : Machine)

/-- The name of the kind of a datum. -/
def kindName : Datum → Text
  | .value v => v.kindName
  | .missing => "_Missing"
  | .builder _ => m.cls.name
  | .record _ => m.recordName
  | .support => "module"
  | .recordClass => "type"
  | .builderClass => "type"
  | .factory => "staticmethod"
  | .reporter => "type"
  | .report _ => "MissingFieldError"
  | .method _ _ => "method"
  | .classMethod _ => "method"
  | .descriptor _ => "member_descriptor"

/-- What reports call the owner of an attribute. -/
def owner (d : Datum) : Text :=
  match d with
  | .support => "module '" ++ supportModule ++ "'"
  | .recordClass => "type object '" ++ m.recordName ++ "'"
  | .builderClass => "type object '" ++ m.cls.name ++ "'"
  | d => "'" ++ m.kindName d ++ "' object"

/-- A name as the frame's code spells it. -/
def spelled (f : Frame) (n : Text) : Text :=
  if f.inClass then Text.mangle m.cls.name n else n

/-- What a name stands for. Inside the class one name stands for the class itself. -/
def lookup (f : Frame) (n : Text) : Run Datum :=
  if f.inClass && n == Text.ofString "__class__" then pure .builderClass
  else match (f.locals.find? (·.1 == n)).or (m.globals.find? (·.1 == n)) with
    | some (_, d) => pure d
    | none => throw (.undefined n)

/-- The fault of an attribute that is not there. -/
def noAttribute {α : Type} (d : Datum) (a : Text) : Run α :=
  throw (.noAttribute (m.owner d) a)

/-- Goes on with an operation on a builder, unless its class defines the name that takes the operation's
place: a slot holds nothing that can be called, and a finalizer takes none of the `given` arguments but
the builder. -/
def intercept (id : Nat) (hook : Text) (given : Nat) : Run Unit := do
  if m.cls.stored.elem hook then
    match ((← get).getD id []).get? hook with
    | some d => throw (.notCallable (m.kindName d))
    | none => m.noAttribute (.builder id) hook
  else match m.cls.method? hook with
    | some method =>
      throw (.tooManyArguments method.label method.params.length method.params.length given)
    | none => pure ()

/-- The fault of an attribute that a builder does not have. -/
def absent (id : Nat) (a : Text) : Run Datum := do
  m.intercept id "__getattr__" 2
  m.noAttribute (.builder id) a

/-- An attribute of a builder: the content of a cell, or what the class defines. -/
def builderAttribute (id : Nat) (a : Text) : Run Datum := do
  m.intercept id "__getattribute__" 2
  if m.cls.stored.elem a then
    match ((← get).getD id []).get? a with
    | some d => pure d
    | none => m.absent id a
  else match m.cls.method? a with
    | some _ => pure (if BuilderClass.classHooks.elem a then .classMethod a else .method id a)
    | none =>
      if a = Text.ofString "__doc__" then pure (.value (.str m.cls.doc))
      else if a = Text.ofString "__slots__" then pure (.value (.tuple (m.cls.slots.map .str)))
      else m.absent id a

/-- An attribute of a datum. -/
def readAttribute (d : Datum) (a : Text) : Run Datum :=
  match d with
  | .builder id => m.builderAttribute id a
  | .builderClass =>
    if m.cls.stored.elem a then pure (.descriptor a) else m.noAttribute d a
  | .support =>
    if a = Text.ofString "MISSING" then pure .missing
    else if a = Text.ofString "MissingFieldError" then pure .reporter
    else m.noAttribute d a
  | _ => m.noAttribute d a

/-- The names every object has. -/
def objectNames : List Text :=
  ["__module__", "__doc__", "__slots__", "__delattr__", "__dir__", "__eq__", "__format__", "__ge__",
    "__getattribute__", "__getstate__", "__gt__", "__hash__", "__init__", "__init_subclass__",
    "__le__", "__lt__", "__ne__", "__new__", "__reduce__", "__reduce_ex__", "__repr__",
    "__setattr__", "__sizeof__", "__str__", "__subclasshook__"]

/-- Sets an attribute. Only the stored slots can be set. -/
def writeAttribute (d : Datum) (a : Text) (new : Datum) : Run Unit :=
  match d with
  | .builder id => do
    m.intercept id "__setattr__" 3
    if m.cls.stored.elem a then
      if a = Text.ofString "__dict__" then throw (.dictionarySlot (m.kindName new))
      else if a = Text.ofString "__weakref__" then throw (.weakSlot m.cls.name)
      else modify fun heap => heap.modify id (Cells.put a new)
    else if (m.cls.method? a).isSome || objectNames.elem a then throw (.readOnly m.cls.name a)
    else m.noAttribute d a
  | _ => m.noAttribute d a

/-- Whether a condition holds on a datum. -/
def truth : Datum → Bool
  | .value (.bool b) => b
  | .value (.list vs) => !vs.isEmpty
  | .value .none => false
  | .missing => false
  | _ => true

/-- Whether both are the mark of a slot that was not set. -/
def bothMissing : Datum → Datum → Bool
  | .missing, .missing => true
  | _, _ => false

/-- A way of calling. -/
abbrev Caller := Datum → List Datum → List (Text × Datum) → Run Datum

mutual

/-- The value of an expression. -/
def eval (call : Caller) (f : Frame) : Expr → Run Datum
  | .name n => m.lookup f (m.spelled f n)
  | .constant c => pure (.value (Value.ofConstant c))
  | .member e a => do
    let d ← eval call f e
    m.readAttribute d (m.spelled f a)
  | .compare l [.mk .is r] => do
    let d ← eval call f l
    let e ← eval call f r
    pure (.value (.bool (bothMissing d e)))
  | .conditional test body orelse => do
    let d ← eval call f test
    if truth d then eval call f body else eval call f orelse
  | .list [] => pure (.value (.list []))
  | .call callee args keywords => do
    let d ← eval call f callee
    let as ← evalArgs call f args
    let ks ← evalKeywords call f keywords
    call d as ks
  | _ => throw .unsupported

/-- The values of arguments; a starred list gives its members. -/
def evalArgs (call : Caller) (f : Frame) : List Expr → Run (List Datum)
  | [] => pure []
  | .starred e :: rest => do
    let d ← eval call f e
    let more ← evalArgs call f rest
    match d with
    | .value (.list vs) => pure (vs.map .value ++ more)
    | _ => throw .unsupported
  | e :: rest => do
    let d ← eval call f e
    let more ← evalArgs call f rest
    pure (d :: more)

/-- The values of keyword arguments. -/
def evalKeywords (call : Caller) (f : Frame) : List Keyword → Run (List (Text × Datum))
  | [] => pure []
  | .mk (some n) _ e :: rest => do
    let d ← eval call f e
    let more ← evalKeywords call f rest
    pure ((n, d) :: more)
  | .mk none _ _ :: _ => throw .unsupported

end

theorem eval_name (call : Caller) (f : Frame) (n : Text) :
    m.eval call f (.name n) = m.lookup f (m.spelled f n) := by
  rw [eval]

/-- How a statement ends: the next one follows, or the call is over. -/
inductive Flow
  | next (locals : Locals)
  | done (result : Datum)

/-- The text a datum is. -/
def textOf? : Datum → Option Text
  | .value (.str t) => some t
  | _ => none

/-- Executes a statement of one line. -/
def execSimple (call : Caller) (f : Frame) : SimpleStmt → Run Flow
  | .assign [.name n] e => do
    let d ← m.eval call f e
    pure (.next ((m.spelled f n, d) :: f.locals))
  | .assign [.member e a] v => do
    let d ← m.eval call f v
    let o ← m.eval call f e
    m.writeAttribute o (m.spelled f a) d
    pure (.next f.locals)
  | .annotated (.member e a) _ _ _ (some v) => do
    let d ← m.eval call f v
    let o ← m.eval call f e
    m.writeAttribute o (m.spelled f a) d
    pure (.next f.locals)
  | .expression (.call (.member (.name n) _) [e] []) => do
    let list ← m.lookup f (m.spelled f n)
    let d ← m.eval call f e
    match list, d with
    | .value (.list vs), .value v =>
      pure (.next ((m.spelled f n, .value (.list (vs ++ [v]))) :: f.locals))
    | _, _ => throw .unsupported
  | .returnValue (some e) => do
    let d ← m.eval call f e
    pure (.done d)
  | .raiseError (some e) none => do
    match ← m.eval call f e with
    | .report ns => throw (.missingFields ns)
    | _ => throw .unsupported
  | _ => throw .unsupported

mutual

/-- Executes a statement. -/
def exec (call : Caller) (f : Frame) : Stmt → Run Flow
  | .simple _ s => m.execSimple call f s
  | .ifElse _ test body orelse => do
    let d ← m.eval call f test
    if truth d then execAll call f body else execAll call f orelse
  | _ => throw .unsupported

/-- Executes statements one after the other. -/
def execAll (call : Caller) (f : Frame) : List Stmt → Run Flow
  | [] => pure (.next f.locals)
  | s :: rest => do
    match ← exec call f s with
    | .next locals => execAll call { f with locals := locals } rest
    | .done d => pure (.done d)

end

theorem execAll_nil (call : Caller) (f : Frame) : m.execAll call f [] = pure (.next f.locals) := by
  rw [execAll]

theorem execAll_cons (call : Caller) (f : Frame) (s : Stmt) (rest : List Stmt) :
    m.execAll call f (s :: rest) = m.exec call f s >>= fun flow =>
      match flow with
      | .next locals => m.execAll call { f with locals := locals } rest
      | .done d => pure (.done d) := by
  rw [execAll]

/-- The local names of a call: one argument for each parameter. -/
def bindArgs (label : Text) (params : List Text) (args : List Datum)
    (keywords : List (Text × Datum)) : Except EvalFault Locals :=
  match keywords with
  | (n, _) :: _ =>
    if params.elem n then .error .unsupported else .error (.unexpectedKeyword label n)
  | [] =>
    if params.length < args.length then
      .error (.tooManyArguments label params.length params.length args.length)
    else match params.drop args.length with
      | p :: ps => .error (.missingArguments label false (p :: ps))
      | [] => .ok (params.zip args)

/-- Runs a method's body. -/
def runBody (call : Caller) (inClass : Bool) (method : Method) (args : List Datum)
    (keywords : List (Text × Datum)) : Run Datum := do
  let locals ← liftExcept (bindArgs method.label method.params args keywords)
  match ← m.execAll call ⟨inClass, locals⟩ method.body with
  | .next _ => pure (.value .none)
  | .done d => pure d
where
  liftExcept {α : Type} : Except EvalFault α → Run α
    | .ok a => pure a
    | .error e => throw e

/-- Makes an empty builder and initializes it. -/
def makeBuilder (call : Caller) (args : List Datum) (keywords : List (Text × Datum)) : Run Datum := do
  let id := (← get).length
  modify (· ++ [[]])
  match m.cls.method? "__init__" with
  | some method => do
    match ← m.runBody call true method (.builder id :: args) keywords with
    | .value .none => pure (.builder id)
    | d => throw (.initResult (m.kindName d))
  | none => pure (.builder id)

/-- Calls the class. It makes a builder, unless a finalizer or a slot is called like what makes one. -/
def instantiate (call : Caller) (args : List Datum) (keywords : List (Text × Datum)) :
    Run Datum :=
  if m.cls.stored.elem (Text.ofString "__new__") then
    throw (.notCallable (m.kindName (.descriptor "__new__")))
  else match m.cls.method? "__new__" with
    | some method => m.runBody call true method (.builderClass :: args) keywords
    | none => m.makeBuilder call args keywords

/-- The names that a report is given. -/
def namesOf (args : List Datum) : List Text :=
  args.filterMap textOf?

/-- Calls a datum. Calls are nested at most `fuel` deep. -/
def call : Nat → Caller
  | 0 => fun _ _ _ => throw .tooDeep
  | fuel + 1 => fun callee args keywords =>
    match callee with
    | .method id n =>
      match m.cls.method? n with
      | some method => m.runBody (call fuel) true method (.builder id :: args) keywords
      | none => throw .unsupported
    | .classMethod n =>
      match m.cls.method? n with
      | some method => m.runBody (call fuel) true method (.builderClass :: args) keywords
      | none => throw .unsupported
    | .factory => m.runBody (call fuel) false m.factory args keywords
    | .builderClass => m.instantiate (call fuel) args keywords
    | .recordClass =>
      match m.construct keywords with
      | .ok d => pure d
      | .error e => throw e
    | .reporter => pure (.report (namesOf args))
    | d => throw (.notCallable (m.kindName d))

end Machine

end FluentRecords
