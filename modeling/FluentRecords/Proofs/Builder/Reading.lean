import FluentRecords.Proofs.Builder.Storage
import FluentRecords.Proofs.Session.Checks
import FluentRecords.Record.Raw

/-!
Builder classes read back. A class is read as a builder only if its body is a description, its slots, an
initializer, setters and a finalizer, each of the one form that is expected and with nothing beside them.
What is read of the builder that is generated for a classified record is, part by part, its fields in order.
-/

namespace FluentRecords

namespace Expr

/-- The text that an expression is. -/
def literal? : Expr → Option Text
  | .constant (.str t false) => some t
  | _ => none

/-- The attribute of the builder that an expression is. -/
def ownAttribute? : Expr → Option Text
  | .member (.name receiver) attr => if receiver = "self" then some attr else none
  | _ => none

/-- Whether an expression is a name of the support module. -/
def isSupport (n : Text) : Expr → Bool
  | .member (.name m) exported => m == supportAlias && exported == n
  | _ => false

/-- The attribute of the builder that is tested for being missing. -/
def tested? : Expr → Option Text
  | .compare value [.mk .is mark] => if mark.isSupport "MISSING" then value.ownAttribute? else none
  | _ => none

/-- What an error for missing fields is raised with. -/
def missingError? : Expr → Option Expr
  | .call error [fields] [] => if error.isSupport "MissingFieldError" then some fields else none
  | _ => none

/-- The attribute of the builder that an argument is, and whether `None` replaces it if it is missing. -/
def source? : Expr → Option (Text × Bool)
  | .conditional test (.constant .none) value => do
    let tested ← test.tested?
    let attr ← value.ownAttribute?
    if tested = attr then some (attr, true) else none
  | value => value.ownAttribute?.map (·, false)

end Expr

/-- What a setter says: its name, the type of its parameter, the attribute that it writes, and the class that
it is said to answer. -/
structure SetterReading where
  name : Text
  type : Expr
  attr : Text
  answer : Text

/-- An argument of a constructor: its keyword, the attribute that it is, and whether `None` replaces it. -/
structure ArgumentReading where
  keyword : Text
  attr : Text
  orNone : Bool

/-- What a finalizer says. The checks are those of an attribute, each with the field that it names, and report
together or one by one. -/
structure FinalizerReading where
  name : Text
  answer : Text
  together : Bool
  checks : List (Text × Text)
  record : Text
  arguments : List ArgumentReading

/-- What a builder class says. The initializer marks attributes as missing, each with the type of its slot. -/
structure BuilderReading where
  name : Text
  description : Text
  slots : List Text
  initial : List (Text × Expr)
  setters : List SetterReading
  finalizer : FinalizerReading

/-- What a factory says: its name, the class that it is said to answer, and the one that it calls. -/
structure FactoryReading where
  name : Text
  answer : Text
  called : Text

/-- A method: its parameters behind the builder itself, what it is said to answer, and its body. -/
structure MethodReading where
  name : Text
  params : List Param
  returns : Expr
  body : List Stmt

def Keyword.argument? : Keyword → Option ArgumentReading
  | .mk (some keyword) _ value => value.source?.map fun s => ⟨keyword, s.1, s.2⟩
  | _ => none

namespace Stmt

def method? : Stmt → Option MethodReading
  | .functionDef _ false name (.mk [] (.mk receiver none none :: params) none [] none) (some returns) [] body =>
    if receiver = "self" then some ⟨name, params, returns, body⟩ else none
  | _ => none

/-- The attribute that a statement marks as missing, and the type of its slot. -/
def initial? : Stmt → Option (Text × Expr)
  | .simple _ (.annotated target _ _ (.subscript slot type) (some mark)) =>
    if slot.isSupport "Slot" && mark.isSupport "MISSING" then target.ownAttribute?.map (·, type) else none
  | _ => none

def initializer? (s : Stmt) : Option (List (Text × Expr)) := do
  let m ← s.method?
  match m.params, m.returns with
  | [], .constant .none => if m.name = "__init__" then m.body.mapM initial? else none
  | _, _ => none

def setter? (s : Stmt) : Option SetterReading := do
  let m ← s.method?
  match m.params, m.body with
  | [.mk param (some type) none],
    [.simple _ (.assign [target] (.name value)), .simple _ (.returnValue (some (.name answered)))] =>
    let attr ← target.ownAttribute?
    let answer ← m.returns.literal?
    if value = param ∧ param ≠ "self" ∧ answered = "self" then some ⟨m.name, type, attr, answer⟩ else none
  | _, _ => none

/-- What a statement raises an error for missing fields with. -/
def raised? : Stmt → Option Expr
  | .simple _ (.raiseError (some error) none) => error.missingError?
  | _ => none

/-- The field that a statement reports. -/
def reported? (s : Stmt) : Option Text :=
  s.raised?.bind Expr.literal?

/-- The field that a statement appends to a list. -/
def noted? (fields : Text) : Stmt → Option Text
  | .simple _ (.expression (.call (.member (.name list) method) [field] [])) =>
    if list = fields ∧ method = "append" then field.literal? else none
  | _ => none

/-- The attribute that a statement checks, and the field that it then does something with. -/
def check? (field? : Stmt → Option Text) : Stmt → Option (Text × Text)
  | .ifElse _ test [s] [] => do
    let attr ← test.tested?
    let field ← field? s
    some (attr, field)
  | _ => none

/-- Whether a statement reports the fields of a list if there are any. -/
def reportsAll (fields : Text) : Stmt → Bool
  | .ifElse _ (.name list) [s] [] =>
    match s.raised? with
    | some (.starred (.name raised)) => list == fields && raised == fields
    | _ => false
  | _ => false

/-- The checks that a list of statements is, and whether they report together. -/
def checks? : List Stmt → Option (Bool × List (Text × Text))
  | .simple _ (.assign [.name fields] (.list [])) :: rest => do
    let last ← rest.getLast?
    let checks ← rest.dropLast.mapM (check? (noted? fields))
    if last.reportsAll fields then some (true, checks) else none
  | checks => (checks.mapM (check? reported?)).map (false, ·)

def finalizer? (s : Stmt) : Option FinalizerReading := do
  let m ← s.method?
  let last ← m.body.getLast?
  match m.params, last with
  | [], .simple _ (.returnValue (some (.call (.name record) [] keywords))) =>
    let answer ← m.returns.literal?
    let checks ← checks? m.body.dropLast
    let arguments ← keywords.mapM Keyword.argument?
    some ⟨m.name, answer, checks.1, checks.2, record, arguments⟩
  | _, _ => none

def factory? : Stmt → Option FactoryReading
  | .functionDef _ false name (.mk [] [] none [] none) (some returns) [⟨_, .name decorator⟩]
      [.simple _ (.returnValue (some (.call (.name called) [] [])))] => do
    let answer ← returns.literal?
    if decorator = "staticmethod" then some ⟨name, answer, called⟩ else none
  | _ => none

end Stmt

def ClassDecl.builder? (c : ClassDecl) : Option BuilderReading :=
  match c.bases, c.keywords, c.decorators, c.body with
  | [], [], [], .simple _ (.expression text) :: .simple _ (.assign [.name target] (.tuple attributes)) :: init
      :: methods => do
    let description ← text.literal?
    let slots ← attributes.mapM Expr.literal?
    let initial ← init.initializer?
    let last ← methods.getLast?
    let setters ← methods.dropLast.mapM Stmt.setter?
    let finalizer ← last.finalizer?
    if target = "__slots__" then some ⟨c.name, description, slots, initial, setters, finalizer⟩ else none
  | _, _, _, _ => none

/-- What is read of a builder is a record with its classified fields: each of them once in every part and in
order, with its own name and its own slot throughout, and no part has anything else. -/
structure BuilderReading.Mirrors (b : BuilderReading) (r : Record) (settings : Settings) : Prop where
  name : b.name = r.name ++ settings.builderSuffix.val
  description : b.description = "Incremental builder for " ++ r.name ++ "."
  slots : b.slots = r.names.map (95 :: ·)
  initial : List.Forall₂ (fun f i => ∃ c, f.classification = some c ∧ i = (95 :: f.name, c.effective))
    r.fields b.initial
  setters : List.Forall₂
    (fun f s => ∃ c, f.classification = some c ∧ s = ⟨f.name, c.effective, 95 :: f.name, b.name⟩)
    r.fields b.setters
  finalizer : b.finalizer.name = settings.finalizerName.val ∧ b.finalizer.answer = r.name
  together : b.finalizer.together = true ↔ settings.collectMissing = true ∧ r.fieldsOf .required ≠ []
  checks : b.finalizer.checks = (r.fieldsOf .required).map fun f => (95 :: f.name, f.name)
  record : b.finalizer.record = r.name
  arguments : List.Forall₂
    (fun f a => ∃ c, f.classification = some c ∧ a = ⟨f.name, 95 :: f.name, c.kind = .optional⟩)
    r.fields b.finalizer.arguments

theorem mapM_map_of_some {α β γ : Type} {f : β → Option γ} {make : α → β} {g : α → γ}
    (each : ∀ a, f (make a) = some (g a)) (as : List α) : (as.map make).mapM f = some (as.map g) := by
  rw [List.mapM_map, show f ∘ make = fun a => pure (g a) from funext each, List.mapM_pure]
  rfl

namespace Emission

theorem literal?_str (t : Text) : (str t).literal? = some t :=
  rfl

theorem initial?_initSlot (s : Slot) : (initSlot s).initial? = some (s.attribute, s.type) :=
  rfl

theorem setter?_setter (builder : Text) (s : Slot) :
    (setter builder s).setter? = some ⟨s.field, s.type, s.attribute, builder⟩ :=
  rfl

theorem check?_checkNow (s : Slot) :
    (checkNow s).check? Stmt.reported? = some (s.attribute, s.field) :=
  rfl

theorem check?_checkLater (s : Slot) :
    (checkLater s).check? (Stmt.noted? missingList) = some (s.attribute, s.field) :=
  rfl

theorem source?_slotValue (s : Slot) :
    (slotValue s).source? = some (s.attribute, decide (s.kind = .optional)) := by
  obtain ⟨field, type, kind⟩ := s
  cases kind with
  | required => rfl
  | optional => exact if_pos rfl

theorem argument?_slotValue (s : Slot) :
    (Keyword.mk (some s.field) .start (slotValue s)).argument? =
      some ⟨s.field, s.attribute, s.kind = .optional⟩ := by
  rw [Keyword.argument?, source?_slotValue]
  rfl

theorem initializer?_init (b : BuilderShape) :
    (init b).initializer? = some (b.slots.map fun s => (s.attribute, s.type)) :=
  mapM_map_of_some initial?_initSlot b.slots

theorem checks?_checks (collect : Bool) (required : List Slot) :
    Stmt.checks? (checks collect required) =
      some (collect && !required.isEmpty, required.map fun s => (s.attribute, s.field)) := by
  by_cases now : collect = false ∨ required = []
  · have checked := mapM_map_of_some check?_checkNow required
    have plain : Stmt.checks? (required.map checkNow) =
        ((required.map checkNow).mapM (Stmt.check? Stmt.reported?)).map (false, ·) := by
      cases required <;> rfl
    have alone : (collect && !required.isEmpty) = false := by
      rcases now with rfl | rfl
      · rfl
      · exact Bool.and_false collect
    rw [checks_now now, plain, checked, alone]
    rfl
  · obtain ⟨collecting, nonempty⟩ := not_or.mp now
    obtain rfl := eq_true_of_ne_false collecting
    have noted := mapM_map_of_some check?_checkLater required
    have reports : Stmt.reportsAll missingList
        (whenever (.name missingList) [raiseMissing (.starred (.name missingList))]) = true := by decide
    rw [checks_collecting nonempty]
    simp [Stmt.checks?, line, noted, reports, nonempty]

theorem finalizer?_finalizer (b : BuilderShape) (settings : Settings) :
    (finalizer b settings).finalizer? =
      some ⟨settings.finalizerName.val, b.record, settings.collectMissing && !b.required.isEmpty,
        b.required.map fun s => (s.attribute, s.field), b.record,
        b.slots.map fun s => ⟨s.field, s.attribute, s.kind = .optional⟩⟩ := by
  have method : (finalizer b settings).method? =
      some ⟨settings.finalizerName.val, [], str b.record,
        checks settings.collectMissing b.required ++ [line (.returnValue (some (construct b)))]⟩ := rfl
  have arguments := mapM_map_of_some argument?_slotValue b.slots
  simp [Stmt.finalizer?, method, line, construct, checks?_checks, literal?_str, arguments]

theorem builder?_builderClass (b : BuilderShape) (settings : Settings) :
    (builderClass b settings).builder? =
      some ⟨b.builder, docstring b.record, b.attributes, b.slots.map fun s => (s.attribute, s.type),
        b.slots.map fun s => ⟨s.field, s.type, s.attribute, b.builder⟩,
        ⟨settings.finalizerName.val, b.record, settings.collectMissing && !b.required.isEmpty,
          b.required.map fun s => (s.attribute, s.field), b.record,
          b.slots.map fun s => ⟨s.field, s.attribute, s.kind = .optional⟩⟩⟩ := by
  have attributes : (b.attributes.map str).mapM Expr.literal? = some b.attributes := by
    rw [mapM_map_of_some literal?_str, List.map_id']
  have setters := mapM_map_of_some (setter?_setter b.builder) b.slots
  simp [ClassDecl.builder?, builderClass, slotList, line, literal?_str, attributes, initializer?_init, setters,
    finalizer?_finalizer]

theorem factory?_factory (builder : Text) (settings : Settings) :
    (factory builder settings).factory? = some ⟨settings.factoryName.val, builder, builder⟩ :=
  rfl

end Emission

section Classified

variable {r : Record} (classified : r.isClassified = true)
include classified

theorem Record.slot_of_classified {f : Field} (member : f ∈ r.fields) :
    ∃ c, f.classification = some c ∧ f.slot = ⟨f.name, c.effective, c.kind⟩ := by
  obtain ⟨c, given⟩ := Option.isSome_iff_exists.mp (List.all_eq_true.mp classified f member)
  exact ⟨c, given, by rw [Field.slot, given]⟩

theorem Record.required_of_classified (builder : Text) :
    (BuilderShape.ofRecord r builder).required = (r.fieldsOf .required).map Field.slot := by
  rw [BuilderShape.required, BuilderShape.ofRecord, Record.fieldsOf, List.filter_map]
  congr 1
  refine List.filter_congr fun f member => ?_
  obtain ⟨c, given, slot⟩ := r.slot_of_classified classified member
  rw [Function.comp_apply, slot, Field.kind?, given, Option.map_some]
  cases c.kind <;> rfl

/-- What is made of each slot is made of each field, with its classification. -/
theorem Record.forall₂_slots {α : Type} {P : Field → α → Prop} {make : Slot → α}
    (each : ∀ f c, f.classification = some c → P f (make ⟨f.name, c.effective, c.kind⟩)) (builder : Text) :
    List.Forall₂ P r.fields ((BuilderShape.ofRecord r builder).slots.map make) := by
  rw [BuilderShape.ofRecord, List.map_map, List.forall₂_map_right_iff, List.forall₂_same]
  intro f member
  obtain ⟨c, given, slot⟩ := r.slot_of_classified classified member
  rw [Function.comp_apply, slot]
  exact each f c given

/-- The builder that is generated for a classified record mirrors its fields, and its factory calls that
builder. -/
theorem Generated.mirrors_record (settings : Settings) :
    ∃ shape b, BuilderShape.ofRaw r (settings.builderName r.name) = .ok shape ∧
      (Generated.ofRecord r settings).builder = Emission.builderClass shape settings ∧
      (Generated.ofRecord r settings).builder.builder? = some b ∧ b.Mirrors r settings ∧
      (Generated.ofRecord r settings).factory.factory? = some ⟨settings.factoryName.val, b.name, b.name⟩ := by
  have shaped : BuilderShape.ofRaw r (settings.builderName r.name) =
      .ok (BuilderShape.ofRecord r (settings.builderName r.name)) := by
    rw [BuilderShape.ofRaw, BuilderShape.ofClassified?, if_pos classified]
  have required := Record.required_of_classified classified (settings.builderName r.name)
  refine ⟨_, _, shaped, rfl, Emission.builder?_builderClass _ settings, ?_, Emission.factory?_factory _ settings⟩
  exact {
    name := rfl
    description := rfl
    slots := BuilderShape.ofRecord_attributes r _
    initial := Record.forall₂_slots classified (fun f c given => ⟨c, given, rfl⟩) _
    setters := Record.forall₂_slots classified (fun f c given => ⟨c, given, rfl⟩) _
    finalizer := ⟨rfl, rfl⟩
    together := by simp [required]
    checks := by
      rw [required, List.map_map]
      refine List.map_congr_left fun f _ => ?_
      rw [Function.comp_apply, Slot.attribute, f.slot_field]
    record := rfl
    arguments := Record.forall₂_slots classified (fun f c given => ⟨c, given, rfl⟩) _ }

end Classified

/-- No field is lost: the names and the classifications of a record can be told from what mirrors it. -/
theorem BuilderReading.Mirrors.fields {b : BuilderReading} {r : Record} {settings : Settings}
    (mirrors : b.Mirrors r settings) :
    r.fields.map (fun f => (f.name, f.classification)) =
      List.zipWith (fun s a => (s.name, some ⟨if a.orNone then .optional else .required, s.type⟩))
        b.setters b.finalizer.arguments := by
  obtain ⟨_, _, _, _, setters, _, _, _, _, arguments⟩ := mirrors
  generalize r.fields = fs at setters arguments
  generalize b.setters = ss at setters
  generalize b.finalizer.arguments = args at arguments
  induction setters generalizing args with
  | nil => rfl
  | @cons f s fs ss first _ ih =>
    cases arguments with
    | @cons _ a _ as own others =>
      obtain ⟨⟨kind, type⟩, given, rfl⟩ := first
      obtain ⟨c, again, rfl⟩ := own
      cases given.symm.trans again
      rw [List.map_cons, List.zipWith_cons_cons, ih as others, given]
      cases kind <;> rfl

/-- A record with a required and an optional field. -/
def classifiedRecord : Record where
  name := "P"
  fields := [⟨"x", .name "int", .start, some ⟨.required, .name "int"⟩⟩,
    ⟨"y", .subscript (.name "Optional") (.name "str"), .start, some ⟨.optional, .name "str"⟩⟩]
  place := .start
  fields_ne := List.cons_ne_nil _ _
  distinct := by decide

theorem Generated.mirrors_record_two_fields :
    classifiedRecord.isClassified = true ∧ ∃ b : BuilderReading,
      (Generated.ofRecord classifiedRecord .default).builder.builder? = some b ∧
        b.Mirrors classifiedRecord .default ∧ b.name = "PBuilder" ∧
        b.finalizer.checks = [(Text.ofString "_x", Text.ofString "x")] := by
  obtain ⟨_, b, _, _, read, mirrors, _⟩ := Generated.mirrors_record (r := classifiedRecord) rfl .default
  exact ⟨rfl, b, read, mirrors, mirrors.name, mirrors.checks⟩

end FluentRecords
