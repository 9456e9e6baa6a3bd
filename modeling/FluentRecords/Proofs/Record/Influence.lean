import FluentRecords.Expansion
import FluentRecords.Proofs.Record.Correspondence
import FluentRecords.Proofs.Syntax.Places

/-!
What a class has an influence with. Two classes of one name whose annotated assignments have the same targets and
types, in the same order, and of which both are enumerations or neither is, are compared step by step: from their
fields to what is generated or reported. Places differ; apart from them, only a line that a message names can.
-/

namespace FluentRecords

namespace Expr

/-- An expression without the places in it. -/
def unplaced (e : Expr) : Expr :=
  e.mapPlaces fun _ => .start

theorem render_unplaced (avoid : Bool) (required : Strength) (e : Expr) :
    e.unplaced.render avoid required = e.render avoid required :=
  render_mapPlaces _ avoid required e

variable {e e' : Expr}

theorem text_of_unplaced (same : e.unplaced = e'.unplaced) : e.text = e'.text := by
  rw [text, text, ← render_unplaced, same, render_unplaced]

theorem lastName?_unplaced (e : Expr) : e.unplaced.lastName? = e.lastName? := by
  cases e <;> rfl

theorem isMarker_unplaced (e : Expr) : e.unplaced.isMarker = e.isMarker := by
  cases e with
  | subscript value index =>
    have same := lastName?_unplaced value
    simp only [unplaced, mapPlaces, isMarker] at same ⊢
    rw [same]
  | _ => rfl

theorem unplaced_eq_name {n : Text} : e.unplaced = .name n ↔ e = .name n := by
  constructor
  · intro same
    cases e with
    | name m => exact same
    | _ => cases same
  · rintro rfl
    rfl

/-- The wrapper is taken off before or after the places. -/
theorem unwrap?_unplaced (wrapper : Text) (e : Expr) :
    e.unplaced.unwrap? wrapper = (e.unwrap? wrapper).map unplaced := by
  cases e with
  | subscript value index =>
    cases value with
    | name n =>
      by_cases same : n = wrapper
      · cases index <;> simp [unplaced, mapPlaces, unwrap?, same]
      · simp [unplaced, mapPlaces, unwrap?, same]
    | _ => rfl
  | _ => rfl

theorem classify_unplaced (wrapper : Text) (e : Expr) :
    e.unplaced.classify wrapper = ⟨(e.classify wrapper).kind, (e.classify wrapper).effective.unplaced⟩ := by
  unfold classify
  rw [unwrap?_unplaced]
  cases e.unwrap? wrapper <;> rfl

/-- The same expression, but for places in it. -/
def Same (e e' : Expr) : Prop :=
  e.unplaced = e'.unplaced

theorem likeness_same : Likeness Same :=
  .of_eq (fun _ _ same => same) (fun _ _ => unplaced_eq_name) isMarker_unplaced

end Expr

namespace ClassDecl

variable {c c' : ClassDecl}

/-- Places of two classes that correspond: of the classes as a whole, or of targets that are annotated one after the
other in both. -/
inductive Corresponding (c c' : ClassDecl) : Pos → Pos → Prop
  | whole : Corresponding c c' c.place c'.place
  | target {d d' : FieldDecl} (member : (d, d') ∈ c.annotations.zip c'.annotations) :
    Corresponding c c' d.targetAt d'.targetAt

/-- Two classes of one name that annotate the same targets with the same types, in the same order, and of which both
are enumerations or neither is. -/
structure SameFields (c c' : ClassDecl) : Prop where
  name : c.name = c'.name
  enum : c.DerivesEnum ↔ c'.DerivesEnum
  annotations : c.annotations.map (fun d => (d.target.unplaced, d.type.unplaced)) =
    c'.annotations.map fun d => (d.target.unplaced, d.type.unplaced)

/-- They correspond, place by place. -/
theorem SameFields.same (same : c.SameFields c') : c.Same Expr.Same (Corresponding c c') c' := by
  refine ⟨same.name, same.enum, .whole, ?_⟩
  have each : List.Forall₂ Eq (c.annotations.map fun d => (d.target.unplaced, d.type.unplaced))
      (c'.annotations.map fun d => (d.target.unplaced, d.type.unplaced)) := by
    rw [List.forall₂_eq_eq_eq]
    exact same.annotations
  rw [List.forall₂_map_left_iff, List.forall₂_map_right_iff] at each
  refine List.forall₂_iff_zip.mpr ⟨each.length_eq, fun member => ?_⟩
  obtain ⟨target, type⟩ := Prod.mk.inj ((List.forall₂_iff_zip.mp each).2 member)
  exact ⟨target, type, .target member⟩

end ClassDecl

variable {R : Pos → Pos → Prop}

/-! ### Messages -/

/-- Two messages that are equal, but for a line that they name: it is that of places that correspond. -/
def SameButLine (R : Pos → Pos → Prop) (m m' : Text) : Prop :=
  m = m' ∨ ∃ before after p p', R p p' ∧
    m = before ++ Text.ofNat p.line ++ after ∧ m' = before ++ Text.ofNat p'.line ++ after

theorem ShapeCause.Same.message {cause cause' : ShapeCause} (same : cause.Same Expr.Same R cause') :
    EndAlike Eq (SameButLine R) cause.message cause'.message := by
  cases same with
  | same => exact .of_eq rfl (fun _ => rfl) fun _ => Or.inl rfl
  | unnamedField record same =>
    have text := Expr.text_of_unplaced same
    refine .of_eq ?_ (fun _ => rfl) fun _ => Or.inl rfl
    simp only [ShapeCause.message, text]
  | repeatedField record field corresponding =>
    exact .ok (Or.inr ⟨_, _, _, _, corresponding, rfl, rfl⟩)

/-! ### Generated code -/

/-- Statements of the same lines, wherever they stand. -/
structure Stmt.SameLines (s s' : Stmt) : Prop where
  lines : ∀ depth, s.lines depth = s'.lines depth
  docstring : docstring? [s] = docstring? [s']

theorem Stmt.SameLines.refl (s : Stmt) : s.SameLines s :=
  ⟨fun _ => rfl, rfl⟩

theorem blockLines_same {ss ss' : List Stmt} (same : List.Forall₂ Stmt.SameLines ss ss') (depth : Nat) :
    blockLines depth ss = blockLines depth ss' := by
  induction same with
  | nil => rfl
  | cons first _ ih => rw [blockLines, blockLines, first.lines, ih]

theorem documentedLines_same {ss ss' : List Stmt} (same : List.Forall₂ Stmt.SameLines ss ss') (depth : Nat) :
    documentedLines depth ss = documentedLines depth ss' := by
  cases same with
  | nil => rfl
  | cons first rest => rw [documentedLines, documentedLines, first.lines, first.docstring, blockLines_same rest]

namespace Emission

/-- Functions whose parameters and bodies are written the same are. -/
theorem function_same {params params' : List Param} {body body' : List Stmt} (name : Text) (returns : Expr)
    (decorators : List Decorator)
    (parameters : Expr.renderParamList false params = Expr.renderParamList false params')
    (same : List.Forall₂ Stmt.SameLines body body') :
    (function name params returns decorators body).SameLines (function name params' returns decorators body') := by
  refine ⟨fun depth => ?_, rfl⟩
  simp only [function, Stmt.lines, Expr.renderParams, parameters, documentedLines_same same]

end Emission

/-- Slots of one field and kind, whose types differ in places at most. -/
structure Slot.Same (s s' : Slot) : Prop where
  field : s.field = s'.field
  kind : s.kind = s'.kind
  type : s.type.unplaced = s'.type.unplaced

namespace Slot.Same

open Emission

variable {s s' : Slot}

theorem stored (same : s.Same s') : s.attribute = s'.attribute := by
  rw [Slot.attribute, same.field, Slot.attribute]

theorem initSlot (same : s.Same s') : (initSlot s).SameLines (Emission.initSlot s') := by
  have type : (Expr.subscript (support "Slot") s.type).text = (Expr.subscript (support "Slot") s'.type).text := by
    refine Expr.text_of_unplaced ?_
    have inside := same.type
    simp only [Expr.unplaced, Expr.mapPlaces] at inside ⊢
    rw [inside]
  refine ⟨fun depth => ?_, rfl⟩
  simp only [Emission.initSlot, line, Stmt.lines, SimpleStmt.text, same.stored, type]

theorem setter (same : s.Same s') (builder : Text) : (setter builder s).SameLines (Emission.setter builder s') := by
  have type : s.type.render false .test = s'.type.render false .test := Expr.text_of_unplaced same.type
  unfold Emission.setter
  rw [same.stored, same.field]
  refine function_same _ _ _ ?_ (List.forall₂_same.mpr fun _ _ => .refl _)
  simp only [Expr.renderParamList, Expr.renderParam, Expr.renderOption, type, Option.isSome_some]

theorem slotValue (same : s.Same s') : slotValue s = Emission.slotValue s' := by
  unfold Emission.slotValue
  rw [same.kind, same.stored]

end Slot.Same

/-- Fields of the same name and type have the same slot. -/
theorem Field.Same.slot {f f' : Field} (same : f.Same Expr.Same f') (wrapper : Text) :
    (f.classify wrapper).slot.Same (f'.classify wrapper).slot := by
  have classification := congrArg (Expr.classify wrapper) same.declared
  rw [Expr.classify_unplaced, Expr.classify_unplaced] at classification
  obtain ⟨kind, effective⟩ := Classification.mk.inj classification
  exact ⟨same.name, kind, effective⟩

/-- Shapes of one builder for one record, with the same slots. -/
structure BuilderShape.Same (b b' : BuilderShape) : Prop where
  builder : b.builder = b'.builder
  record : b.record = b'.record
  slots : List.Forall₂ Slot.Same b.slots b'.slots

namespace Record.Same

variable {r r' : Record}

theorem classified (same : r.Same Expr.Same r') (wrapper : Text) :
    List.Forall₂ (fun f f' => f.slot.Same f'.slot) (r.classify wrapper).fields (r'.classify wrapper).fields := by
  refine List.forall₂_map_left_iff.mpr (List.forall₂_map_right_iff.mpr ?_)
  exact same.fields.imp fun _ _ related => related.slot wrapper

theorem shape (same : r.Same Expr.Same r') (wrapper builder : Text) :
    (BuilderShape.ofRecord (r.classify wrapper) builder).Same
      (BuilderShape.ofRecord (r'.classify wrapper) builder) :=
  ⟨rfl, same.name, List.forall₂_map_left_iff.mpr (List.forall₂_map_right_iff.mpr (same.classified wrapper))⟩

/-- Types are all written, or the first one that cannot be is the same. -/
theorem checkTypes (same : r.Same Expr.Same r') (wrapper : Text) :
    (r.classify wrapper).checkTypes = (r'.classify wrapper).checkTypes := by
  refine forM_eq_of_forall₂ (same.classified wrapper) fun f f' slot => ?_
  rw [Expr.text_of_unplaced slot.type]

end Record.Same

namespace BuilderShape.Same

open Emission

variable {b b' : BuilderShape}

theorem required (same : b.Same b') : List.Forall₂ Slot.Same b.required b'.required := by
  unfold BuilderShape.required
  have slots := same.slots
  generalize b.slots = ss at slots
  generalize b'.slots = ss' at slots
  induction slots with
  | nil => exact .nil
  | cons first _ ih =>
    rw [List.filter_cons, List.filter_cons, first.kind]
    split
    · exact .cons first ih
    · exact ih

theorem checks (same : b.Same b') (collect : Bool) :
    checks collect b.required = Emission.checks collect b'.required := by
  have now : b.required.map checkNow = b'.required.map checkNow :=
    map_eq_of_forall₂ same.required fun _ _ slot => by
      rw [checkNow, slot.stored, slot.field, checkNow]
  have later : b.required.map checkLater = b'.required.map checkLater :=
    map_eq_of_forall₂ same.required fun _ _ slot => by
      rw [checkLater, slot.stored, slot.field, checkLater]
  have empty : b.required.isEmpty = b'.required.isEmpty := isEmpty_eq_of_forall₂ same.required
  rw [Emission.checks, now, later, empty, Emission.checks]

theorem construct (same : b.Same b') : construct b = Emission.construct b' := by
  have arguments : (b.slots.map fun s => Keyword.mk (some s.field) .start (slotValue s)) =
      b'.slots.map fun s => Keyword.mk (some s.field) .start (slotValue s) :=
    map_eq_of_forall₂ same.slots fun _ _ slot => by
      rw [slot.field, slot.slotValue]
  rw [Emission.construct, arguments, same.record, Emission.construct]

theorem slotList (same : b.Same b') : slotList b = Emission.slotList b' := by
  have attributes : b.attributes = b'.attributes := map_eq_of_forall₂ same.slots fun _ _ slot => slot.stored
  rw [Emission.slotList, attributes, Emission.slotList]

/-- Builders with the same slots are written the same. -/
theorem text (same : b.Same b') (settings : Settings) :
    (builderClass b settings).stmt.text = (builderClass b' settings).stmt.text := by
  have init : (Emission.init b).SameLines (Emission.init b') := by
    refine function_same _ _ _ rfl ?_
    simp only [List.forall₂_map_left_iff, List.forall₂_map_right_iff]
    exact same.slots.imp fun _ _ slot => slot.initSlot
  have setters : List.Forall₂ Stmt.SameLines (b.slots.map (setter b.builder)) (b'.slots.map (setter b'.builder)) := by
    rw [same.builder]
    simp only [List.forall₂_map_left_iff, List.forall₂_map_right_iff]
    exact same.slots.imp fun _ _ slot => slot.setter b'.builder
  have finalizer : finalizer b settings = Emission.finalizer b' settings := by
    rw [Emission.finalizer, same.checks, same.construct, same.record, Emission.finalizer]
  have body : List.Forall₂ Stmt.SameLines (builderClass b settings).body (builderClass b' settings).body := by
    unfold builderClass
    rw [same.slotList, same.record, finalizer]
    exact .cons (.refl _) (.cons (.refl _) (.cons init
      (List.rel_append setters (.cons (.refl _) .nil))))
  have name : (builderClass b settings).name = (builderClass b' settings).name := same.builder
  simp only [Stmt.text, ClassDecl.stmt, Stmt.lines, documentedLines_same body, name]
  rfl

end BuilderShape.Same

/-! ### Outcomes -/

/-- What two expansions come to: the same name, and either builders and factories of the same texts, or an error each,
at places that correspond, whose messages differ in a line that they name at most. -/
inductive Expansion.Same (R : Pos → Pos → Prop) : Expansion → Expansion → Prop
  | generated {name : Option Text} {g g' : Generated} (builder : g.builder.stmt.text = g'.builder.stmt.text)
    (factory : g.factory.text = g'.factory.text) : Same R ⟨name, some g, []⟩ ⟨name, some g', []⟩
  | failed {name : Option Text} {p p' : Pos} {m m' : Text} (place : R p p') (message : SameButLine R m m') :
    Same R ⟨name, none, [.errorAt p m]⟩ ⟨name, none, [.errorAt p' m']⟩

namespace ClassDecl

/-- Only names and annotations matter: under all settings, two classes of one name that annotate the same targets with
the same types, and of which both are enumerations or neither is, come to the same. -/
theorem SameFields.expand_alike {c c' : ClassDecl} (same : c.SameFields c') (settings : Settings) :
    EndAlike Eq (Expansion.Same (Corresponding c c')) (Expansion.expand settings (.stmt c.stmt))
      (Expansion.expand settings (.stmt c'.stmt)) := by
  have name : Declaration.name? (.stmt c.stmt) = Declaration.name? (.stmt c'.stmt) := congrArg some same.name
  have read : EndAlike _ _ (Declaration.record (.stmt c.stmt) settings.reservedNames)
    (Declaration.record (.stmt c'.stmt) settings.reservedNames) :=
    same.same.record Expr.likeness_same settings.reservedNames
  unfold Expansion.expand
  rw [name]
  generalize Declaration.record (.stmt c.stmt) settings.reservedNames = first at read
  generalize Declaration.record (.stmt c'.stmt) settings.reservedNames = second at read
  cases read with
  | error fault =>
    have diagnostic : EndAlike Eq
        (fun d d' => ∃ p p' m m', Corresponding c c' p p' ∧ SameButLine (Corresponding c c') m m' ∧
          d = Diagnostic.errorAt p m ∧ d' = Diagnostic.errorAt p' m') (Diagnostic.ofShape _) (Diagnostic.ofShape _) :=
      fault.cause.message.bind fun m m' message => .ok ⟨_, _, m, m', fault.place, message, rfl, rfl⟩
    refine diagnostic.bind ?_
    rintro _ _ ⟨p, p', m, m', place, message, rfl, rfl⟩
    exact .ok (.failed place message)
  | @ok r r' related =>
    have written : EndAlike Eq (fun _ _ => True) (r.classify settings.wrapperName.val).checkTypes
        (r'.classify settings.wrapperName.val).checkTypes :=
      .of_eq (related.checkTypes _) (fun _ => rfl) fun _ => trivial
    refine written.bind fun _ _ _ => .ok (.generated ?_ ?_)
    · change (Emission.builderClass (BuilderShape.ofRecord _ (settings.builderName r.name)) settings).stmt.text = _
      rw [(related.shape settings.wrapperName.val (settings.builderName r.name)).text settings, related.name]
      rfl
    · change (Emission.factory (settings.builderName r.name) settings).text = _
      rw [related.name]
      rfl

/-- A class with two fields, the second of which is optional. -/
def plain : ClassDecl where
  place := ⟨1, 0⟩
  name := "Pair"
  bases := []
  keywords := []
  decorators := []
  body := [
    .simple ⟨2, 4⟩ (.annotated (.name "left") ⟨2, 4⟩ true (.name "int") none),
    .simple ⟨3, 4⟩ (.annotated (.name "right") ⟨3, 4⟩ true (.subscript (.name "Optional") (.name "str")) none)]

/-- The class with a decorator, a base, a description, a default value, a method and an assignment. -/
def dressed : ClassDecl where
  place := ⟨2, 0⟩
  name := "Pair"
  bases := [.name "Base"]
  keywords := [.mk (some "metaclass") ⟨2, 17⟩ (.name "Meta")]
  decorators := [⟨⟨1, 1⟩, .name "final"⟩]
  body := [
    .simple ⟨3, 4⟩ (.expression (.constant (.str "Two things." false))),
    .simple ⟨4, 4⟩ (.annotated (.name "left") ⟨4, 4⟩ true (.name "int") (some (.constant (.int 1)))),
    .simple ⟨5, 4⟩ (.assign [.name "limit"] (.constant (.int 9))),
    .functionDef ⟨6, 4⟩ false "right_of" .empty none [] [.simple ⟨7, 8⟩ .pass],
    .simple ⟨8, 4⟩ (.annotated (.name "right") ⟨8, 5⟩ false (.subscript (.name "Optional") (.name "str"))
      (some (.constant .none)))]

theorem SameFields.expand_alike_dressed : plain.SameFields dressed ∧
    EndAlike Eq (Expansion.Same (Corresponding plain dressed)) (Expansion.expand .default (.stmt plain.stmt))
      (Expansion.expand .default (.stmt dressed.stmt)) := by
  have enum : plain.DerivesEnum ↔ dressed.DerivesEnum := by
    rw [← isEnum_iff, ← isEnum_iff]
    decide
  have same : plain.SameFields dressed := ⟨rfl, enum, rfl⟩
  exact ⟨same, same.expand_alike .default⟩

end ClassDecl

end FluentRecords
