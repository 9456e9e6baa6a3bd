import FluentRecords.Proofs.Builder.Storage
import FluentRecords.Proofs.Outcome
import FluentRecords.Proofs.Session.Cells

/-!
What generated code sets up. Of several methods of one name the class keeps the last one, so a finalizer
hides a setter or the initializer, and nothing else hides anything.
-/

namespace FluentRecords

namespace BuilderClass

theorem find?_putMember (m : Member) (ms : List Member) (n : Text) :
    (putMember m ms).find? (·.name == n) = if m.name = n then some m else ms.find? (·.name == n) := by
  induction ms with
  | nil => by_cases same : m.name = n <;> simp [putMember, same]
  | cons m' rest ih =>
    by_cases here : m'.name = m.name
    · by_cases same : m.name = n
      · simp [putMember, here, same]
      · simp [putMember, here, same]
    · by_cases found : m'.name = n
      · subst n
        simp [putMember, here, Ne.symm here]
      · simp [putMember, here, found, ih]

/-- Of the methods put into a class, the last one of a name is found under it. -/
theorem find?_foldl_putMember (added ms : List Member) (n : Text) :
    (added.foldl (fun ms m => putMember m ms) ms).find? (·.name == n) =
      (added.reverse.find? (·.name == n)).or (ms.find? (·.name == n)) := by
  induction added generalizing ms with
  | nil => rfl
  | cons m rest ih =>
    rw [List.foldl_cons, ih, find?_putMember, List.reverse_cons, List.find?_append, Option.or_assoc]
    congr 1
    by_cases same : m.name = n <;> simp [same]

/-- A class that comes out of a declaration has the declared slots and methods, and no slot is stored
under the name of a method. -/
theorem ofDecl_ok {c : ClassDecl} {cls : BuilderClass} (made : ofDecl c = .ok cls) :
    ∃ p doc k q ts attrs defs,
      c.body = .simple p (.expression (.constant (.str doc k))) :: .simple q (.assign ts (.tuple attrs)) :: defs ∧
        textsOf attrs = some cls.slots ∧ cls.name = c.name ∧
        cls.methods = (defs.filterMap (memberOf c.name)).foldl (fun ms m => putMember m ms) [] ∧
        ∀ a ∈ cls.stored, a ∉ ownNames ++ cls.methods.map (·.name) := by
  unfold ofDecl at made
  split at made
  · rename_i p doc k q ts attrs defs body
    split at made
    · cases made
    · rename_i slots texts
      dsimp only at made
      split at made
      · cases made
      · split at made
        · cases made
        · rename_i clear
          split at made
          · cases made
          · split at made
            · cases made
            · cases made
              refine ⟨p, doc, k, q, ts, attrs, defs, body, texts, rfl, rfl, fun a stored named => ?_⟩
              exact List.find?_eq_none.mp clear a stored (List.elem_eq_true_of_mem named)
  · cases made

theorem method?_eq_none_of_not_mem {cls : BuilderClass} {n : Text} (fresh : n ∉ cls.methods.map (·.name)) :
    cls.method? n = none := by
  have missed : cls.methods.find? (·.name == n) = none := by
    refine List.find?_eq_none.mpr fun m member same => fresh ?_
    exact List.mem_map.mpr ⟨m, member, beq_iff_eq.mp same⟩
  rw [method?, missed]
  rfl

end BuilderClass

/-- The setter of a slot as a member of its class. -/
def Slot.member (cls : Text) (s : Slot) : Member :=
  ⟨s.field, ⟨cls ++ "." ++ s.field, ["self", "value"],
    [Emission.assignSlot s.attribute (.name "value"), Emission.line (.returnValue (some (.name "self")))]⟩⟩

/-- The initializer of a builder as a member of its class. -/
def BuilderShape.initMember (b : BuilderShape) : Member :=
  ⟨"__init__", ⟨b.builder ++ "." ++ "__init__", ["self"], b.slots.map Emission.initSlot⟩⟩

/-- The finalizer of a builder as a member of its class. -/
def BuilderShape.finalMember (b : BuilderShape) (settings : Settings) : Member :=
  ⟨Text.mangle b.builder settings.finalizerName.val,
    ⟨b.builder ++ "." ++ settings.finalizerName.val, ["self"],
      Emission.checks settings.collectMissing b.required ++
        [Emission.line (.returnValue (some (Emission.construct b)))]⟩⟩

/-- The members of the class of a builder, with the finalizer, which hides what has its name, in front. -/
def BuilderShape.members (b : BuilderShape) (settings : Settings) : List Member :=
  b.finalMember settings :: (b.slots.map (Slot.member b.builder)).reverse ++ [b.initMember]

/-- A machine is set up for a builder: its class has the slots, the setters, the initializer and the
finalizer of the builder, where the finalizer hides what has its name. -/
structure Machine.SetUp (m : Machine) (b : BuilderShape) (settings : Settings) : Prop where
  name : m.cls.name = b.builder
  stored : m.cls.stored = b.attributes.map (Text.mangle b.builder)
  apart : ∀ a ∈ m.cls.stored, m.cls.method? a = none
  finalizer : m.cls.method? (Text.mangle b.builder settings.finalizerName.val) =
    some (b.finalMember settings).method
  setter : ∀ s ∈ b.slots, s.field ≠ Text.mangle b.builder settings.finalizerName.val →
    m.cls.method? s.field = some (s.member b.builder).method
  init : Text.ofString "__init__" ≠ Text.mangle b.builder settings.finalizerName.val →
    m.cls.method? "__init__" = some b.initMember.method
  others : ∀ n, n ≠ Text.mangle b.builder settings.finalizerName.val → n ≠ Text.ofString "__init__" →
    n ∉ b.slots.map Slot.field → m.cls.method? n = none
  factory : m.factory = Machine.functionOf (Emission.factory b.builder settings)
  globals : m.globals = Machine.moduleNames b.record b.builder settings.factoryName.val
  construct : m.construct = Session.standIn

theorem BuilderClass.memberOf_setter (cls : Text) {s : Slot}
    (visible : Text.startsWith "__" s.field = false) :
    BuilderClass.memberOf cls (Emission.setter cls s) = some (s.member cls) := by
  have kept : Text.mangle cls s.field = s.field :=
    Text.mangle_of_not_private (Text.isPrivate_of_not_startsWith visible)
  simp only [Emission.setter, Emission.function, BuilderClass.memberOf, kept]
  rfl

theorem BuilderClass.memberOf_init (b : BuilderShape) :
    BuilderClass.memberOf b.builder (Emission.init b) = some b.initMember := by
  have kept : Text.mangle b.builder "__init__" = "__init__" := Text.mangle_of_not_private (by decide)
  simp only [Emission.init, Emission.function, BuilderClass.memberOf, kept]
  rfl

theorem BuilderClass.memberOf_setters (cls : Text) {ss : List Slot}
    (visible : ∀ s ∈ ss, Text.startsWith "__" s.field = false) :
    (ss.map (Emission.setter cls)).filterMap (BuilderClass.memberOf cls) = ss.map (Slot.member cls) := by
  induction ss with
  | nil => rfl
  | cons s rest ih =>
    have first := BuilderClass.memberOf_setter cls (visible s List.mem_cons_self)
    rw [List.map_cons, List.map_cons, List.filterMap_cons_some first,
      ih fun s member => visible s (List.mem_cons_of_mem _ member)]

/-- The class of a builder has its slots, and the last of its members of every name. -/
theorem BuilderClass.ofDecl_builderClass {b : BuilderShape} {settings : Settings} {cls : BuilderClass}
    (made : BuilderClass.ofDecl (Emission.builderClass b settings) = .ok cls)
    (visible : ∀ s ∈ b.slots, Text.startsWith "__" s.field = false) :
    cls.name = b.builder ∧ cls.slots = b.attributes ∧
      (∀ a ∈ cls.stored, cls.method? a = none) ∧
      ∀ n, cls.method? n = ((b.members settings).find? (·.name == n)).map Member.method := by
  have members : (Emission.init b :: b.slots.map (Emission.setter b.builder) ++
      [Emission.finalizer b settings]).filterMap (BuilderClass.memberOf b.builder) =
        b.initMember :: b.slots.map (Slot.member b.builder) ++ [b.finalMember settings] := by
    rw [List.cons_append, List.filterMap_cons_some (BuilderClass.memberOf_init b), List.filterMap_append,
      BuilderClass.memberOf_setters b.builder visible]
    rfl
  obtain ⟨p, doc, k, q, ts, attrs, defs, body, texts, name, methods, clear⟩ := BuilderClass.ofDecl_ok made
  rw [Emission.builderClass_body] at body
  cases body
  rw [BuilderClass.textsOf_map_str] at texts
  rw [← List.cons_append, show (Emission.builderClass b settings).name = b.builder from rfl, members] at methods
  refine ⟨name, (Option.some.inj texts).symm, fun a stored => ?_, fun n => ?_⟩
  · refine BuilderClass.method?_eq_none_of_not_mem fun named => clear a stored ?_
    exact List.mem_append_right _ named
  · rw [BuilderClass.method?, methods, BuilderClass.find?_foldl_putMember, List.find?_nil, Option.or_none,
      List.reverse_append, List.reverse_singleton, List.reverse_cons]
    rfl

theorem Slot.find?_member {cls : Text} {ss : List Slot} (distinct : (ss.map Slot.field).Nodup) {s : Slot}
    (member : s ∈ ss) :
    (ss.map (Slot.member cls)).reverse.find? (·.name == s.field) = some (s.member cls) := by
  have inside : s.member cls ∈ (ss.map (Slot.member cls)).reverse :=
    List.mem_reverse.mpr (List.mem_map_of_mem member)
  cases found : (ss.map (Slot.member cls)).reverse.find? (·.name == s.field) with
  | none => exact absurd (beq_self_eq_true _) (List.find?_eq_none.mp found _ inside)
  | some other =>
    obtain ⟨s', member', rfl⟩ := List.mem_map.mp (List.mem_reverse.mp (List.mem_of_find?_eq_some found))
    have matched := List.find?_some found
    have named : s'.field = s.field := beq_iff_eq.mp matched
    rw [List.inj_on_of_nodup_map distinct member' member named]

namespace BuilderShape

variable {b : BuilderShape} {settings : Settings} {n : Text}

theorem find?_members_finalizer (b : BuilderShape) (settings : Settings) :
    (b.members settings).find? (·.name == Text.mangle b.builder settings.finalizerName.val) =
      some (b.finalMember settings) :=
  List.find?_cons_of_pos (beq_self_eq_true _)

theorem find?_members (apart : n ≠ Text.mangle b.builder settings.finalizerName.val) :
    (b.members settings).find? (·.name == n) =
      ((b.slots.map (Slot.member b.builder)).reverse.find? (·.name == n)).or
        ([b.initMember].find? (·.name == n)) := by
  have passed : ((b.finalMember settings).name == n) = false := beq_eq_false_iff_ne.mpr (Ne.symm apart)
  rw [members, List.cons_append, List.find?_cons, passed, List.find?_append]

theorem find?_setters_eq_none (fresh : n ∉ b.slots.map Slot.field) :
    (b.slots.map (Slot.member b.builder)).reverse.find? (·.name == n) = none := by
  refine List.find?_eq_none.mpr fun member inside same => fresh ?_
  obtain ⟨s, listed, rfl⟩ := List.mem_map.mp (List.mem_reverse.mp inside)
  exact List.mem_map.mpr ⟨s, listed, beq_iff_eq.mp same⟩

theorem find?_members_setter (distinct : (b.slots.map Slot.field).Nodup) {s : Slot} (member : s ∈ b.slots)
    (apart : s.field ≠ Text.mangle b.builder settings.finalizerName.val) :
    (b.members settings).find? (·.name == s.field) = some (s.member b.builder) := by
  rw [find?_members apart, Slot.find?_member distinct member, Option.some_or]

theorem find?_members_init (fresh : Text.ofString "__init__" ∉ b.slots.map Slot.field)
    (apart : Text.ofString "__init__" ≠ Text.mangle b.builder settings.finalizerName.val) :
    (b.members settings).find? (·.name == Text.ofString "__init__") = some b.initMember := by
  rw [find?_members apart, find?_setters_eq_none fresh, Option.none_or]
  exact List.find?_cons_of_pos (beq_self_eq_true _)

theorem find?_members_eq_none (apart : n ≠ Text.mangle b.builder settings.finalizerName.val)
    (ordinary : n ≠ Text.ofString "__init__") (fresh : n ∉ b.slots.map Slot.field) :
    (b.members settings).find? (·.name == n) = none := by
  have last : (b.initMember.name == n) = false := beq_eq_false_iff_ne.mpr (Ne.symm ordinary)
  rw [find?_members apart, find?_setters_eq_none fresh, Option.none_or, List.find?_cons, last, List.find?_nil]

end BuilderShape

namespace Machine.SetUp

variable {m : Machine} {b : BuilderShape} {settings : Settings}

/-- Some method makes a new builder ready, be it the initializer or a finalizer of its name. -/
theorem exists_init (setUp : m.SetUp b settings) : ∃ method, m.cls.method? "__init__" = some method := by
  by_cases hidden : Text.ofString "__init__" = Text.mangle b.builder settings.finalizerName.val
  · exact ⟨_, hidden ▸ setUp.finalizer⟩
  · exact ⟨_, setUp.init hidden⟩

/-- A name of the module stands for the record, the support module, the class or the factory. -/
theorem get?_globals (setUp : m.SetUp b settings) (n : Text) :
    Cells.get? m.globals n =
      if n = settings.factoryName.val then some .factory
      else if n = b.builder then some .builderClass
      else if n = supportAlias then some .support
      else if n = b.record then some .recordClass
      else none := by
  rw [setUp.globals, moduleNames]
  simp only [List.foldl_cons, List.foldl_nil, Cells.get?_put]
  by_cases same : n = b.record
  · subst same
    simp [Cells.get?]
  · have other : (b.record == n) = false := beq_eq_false_iff_ne.mpr (Ne.symm same)
    simp [Cells.get?, other, same]

end Machine.SetUp

/-- What generated code sets up, if its class can be made, is set up for the builder of the record. -/
theorem Machine.ofGenerated_setUp {r : Record} {settings : Settings} {m : Machine}
    (made : Machine.ofGenerated (.ofRecord r settings) settings Session.standIn = .ok m)
    (visible : ∀ n ∈ r.names, Text.startsWith "__" n = false) :
    m.SetUp (BuilderShape.ofRecord r (settings.builderName r.name)) settings := by
  obtain ⟨cls, declared, made⟩ := bind_eq_ok.mp made
  cases made
  let b := BuilderShape.ofRecord r (settings.builderName r.name)
  have fields : b.slots.map Slot.field = r.names := BuilderShape.ofRecord_fields r _
  have shown : ∀ s ∈ b.slots, Text.startsWith "__" s.field = false := fun s member =>
    visible s.field (fields ▸ List.mem_map_of_mem member)
  have distinct : (b.slots.map Slot.field).Nodup := fields ▸ r.distinct
  have fresh : Text.ofString "__init__" ∉ b.slots.map Slot.field := by
    intro named
    have hidden : Text.startsWith "__" (Text.ofString "__init__") = true := by decide
    exact Bool.false_ne_true ((visible _ (fields ▸ named)).symm.trans hidden)
  obtain ⟨name, slots, apart, methods⟩ := BuilderClass.ofDecl_builderClass (b := b) declared shown
  exact {
    name := name
    stored := by
      rw [BuilderClass.stored, slots, name]
    apart := apart
    finalizer := by
      rw [methods, b.find?_members_finalizer settings]
      rfl
    setter := by
      intro s member different
      rw [methods, BuilderShape.find?_members_setter distinct member different]
      rfl
    init := by
      intro different
      rw [methods, BuilderShape.find?_members_init fresh different]
      rfl
    others := by
      intro n different ordinary unset
      rw [methods, BuilderShape.find?_members_eq_none different ordinary unset]
      rfl
    factory := rfl
    globals := by
      change Machine.moduleNames r.name cls.name settings.factoryName.val = _
      rw [name]
      rfl
    construct := rfl }

end FluentRecords
