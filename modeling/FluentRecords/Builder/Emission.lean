import FluentRecords.Builder.Shape

/-!
The declarations generated for a record: its builder class and the factory that goes into the record.
Every slot starts out missing. A setter stores its value and answers the builder itself; the finalizer
checks the slots of required fields, either one after the other or all together, and then constructs
the record, with `None` for every optional field that was not set. Generated nodes stand at the start
of a module until they are put into one.
-/

namespace FluentRecords

/-- The module that generated code imports, and the name it is imported under. -/
def supportModule : Text :=
  "recordbuilder.runtime"

/-- The name under which generated code reaches its support. -/
def supportAlias : Text :=
  "_builder_runtime"

/-- The name of the list in which missing fields are collected. -/
def missingList : Text :=
  "_missing"

namespace Emission

/-- A text as an expression. -/
def str (t : Text) : Expr :=
  .constant (.str t false)

/-- A name exported by the support module. -/
def support (n : Text) : Expr :=
  .member (.name supportAlias) n

/-- An attribute of the builder. -/
def selfMember (attr : Text) : Expr :=
  .member (.name "self") attr

/-- The mark of a slot that was not set. -/
def missing : Expr :=
  support "MISSING"

/-- Whether a value is the mark. -/
def isMissing (e : Expr) : Expr :=
  .compare e [.mk .is missing]

/-- A statement of one line. -/
def line (s : SimpleStmt) : Stmt :=
  .simple .start s

/-- A condition without alternative. -/
def whenever (test : Expr) (body : List Stmt) : Stmt :=
  .ifElse .start test body []

/-- A function whose parameters are regular ones. -/
def function (name : Text) (params : List Param) (returns : Expr) (decorators : List Decorator)
    (body : List Stmt) : Stmt :=
  .functionDef .start false name (.mk [] params none [] none) (some returns) decorators body

/-- The parameter for the builder itself. -/
def selfParam : Param :=
  .mk "self" none none

/-- The statement that sets a slot. -/
def assignSlot (attr : Text) (value : Expr) : Stmt :=
  line (.assign [selfMember attr] value)

/-- The statement that marks a slot as missing. -/
def initSlot (s : Slot) : Stmt :=
  line (.annotated (selfMember s.attribute) .start false (.subscript (support "Slot") s.type)
    (some missing))

/-- The initializer of a builder. -/
def init (b : BuilderShape) : Stmt :=
  function "__init__" [selfParam] (.constant .none) [] (b.slots.map initSlot)

/-- The setter of a field. -/
def setter (builder : Text) (s : Slot) : Stmt :=
  function s.field [selfParam, .mk "value" (some s.type) none] (str builder) []
    [assignSlot s.attribute (.name "value"), line (.returnValue (some (.name "self")))]

/-- The statement that reports missing fields. -/
def raiseMissing (names : Expr) : Stmt :=
  line (.raiseError (some (.call (support "MissingFieldError") [names] [])) none)

/-- The check of a required field that reports it at once. -/
def checkNow (s : Slot) : Stmt :=
  whenever (isMissing (selfMember s.attribute)) [raiseMissing (str s.field)]

/-- The check of a required field that takes note of it. -/
def checkLater (s : Slot) : Stmt :=
  whenever (isMissing (selfMember s.attribute))
    [line (.expression (.call (.member (.name missingList) "append") [str s.field] []))]

/-- The checks of the required fields. -/
def checks (collect : Bool) (required : List Slot) : List Stmt :=
  if collect && !required.isEmpty then
    line (.assign [.name missingList] (.list []))
      :: required.map checkLater
      ++ [whenever (.name missingList) [raiseMissing (.starred (.name missingList))]]
  else required.map checkNow

/-- What the record is given for a slot. -/
def slotValue (s : Slot) : Expr :=
  match s.kind with
  | .required => selfMember s.attribute
  | .optional =>
    .conditional (isMissing (selfMember s.attribute)) (.constant .none) (selfMember s.attribute)

/-- The construction of the record. -/
def construct (b : BuilderShape) : Expr :=
  .call (.name b.record) [] (b.slots.map fun s => .mk (some s.field) .start (slotValue s))

/-- The finalizer of a builder. -/
def finalizer (b : BuilderShape) (settings : Settings) : Stmt :=
  function settings.finalizerName.val [selfParam] (str b.record) []
    (checks settings.collectMissing b.required ++ [line (.returnValue (some (construct b)))])

/-- The description of a builder. -/
def docstring (record : Text) : Text :=
  "Incremental builder for " ++ record ++ "."

/-- The declaration of the slots. -/
def slotList (b : BuilderShape) : Stmt :=
  line (.assign [.name "__slots__"] (.tuple (b.attributes.map str)))

/-- The builder class. -/
def builderClass (b : BuilderShape) (settings : Settings) : ClassDecl where
  place := .start
  name := b.builder
  bases := []
  keywords := []
  decorators := []
  body := line (.expression (str (docstring b.record))) :: slotList b :: init b
    :: b.slots.map (setter b.builder) ++ [finalizer b settings]

/-- The factory of a record. -/
def factory (builder : Text) (settings : Settings) : Stmt :=
  function settings.factoryName.val [] (str builder) [⟨.start, .name "staticmethod"⟩]
    [line (.returnValue (some (.call (.name builder) [] [])))]

/-- The import that generated code needs. -/
def supportImport : Stmt :=
  line (.importNames [⟨supportModule, some supportAlias⟩])

end Emission

end FluentRecords
