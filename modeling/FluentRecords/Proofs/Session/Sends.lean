import FluentRecords.Proofs.Session.Creation
import FluentRecords.Proofs.Session.Journal

/-!
Calls on builders. On a builder that was made, a setter writes, the finalizer and the initializer do what
they are for, and whatever else is called fails and changes nothing.
-/

namespace FluentRecords

/-- The names of a finalizer and of fields leave reading attributes alone: nothing is called like what
takes the place of reading, and the finalizer is not of those that belong to the class. -/
structure PlainNames (finalizer : Text) (names : List Text) : Prop where
  finalizer_reading : finalizer ≠ Text.ofString "__getattribute__"
  finalizer_class : finalizer ∉ BuilderClass.classHooks
  slot : Text.ofString "_getattribute__" ∉ names

/-- A machine that makes builders of some shape, with names that leave reading attributes alone. -/
structure Machine.Ready (m : Machine) (b : BuilderShape) (settings : Settings) : Prop
    extends m.SetUp b settings where
  nonempty : b.slots ≠ []
  visible : ∀ s ∈ b.slots, Text.startsWith "__" s.field = false
  plain : PlainNames settings.finalizerName.val (b.slots.map Slot.field)

namespace Machine

variable {m : Machine} {b : BuilderShape} {settings : Settings} {h : Heap} {id : Nat}

theorem not_field_of_startsWith (visible : ∀ s ∈ b.slots, Text.startsWith "__" s.field = false) {n : Text}
    (starts : Text.startsWith "__" n = true) : n ∉ b.slots.map Slot.field := by
  intro named
  obtain ⟨s, member, rfl⟩ := List.mem_map.mp named
  exact Bool.false_ne_true ((visible s member).symm.trans starts)

theorem readable_iff : b.readable settings = true ↔
    settings.finalizerName.val ≠ Text.ofString "__getattribute__" ∧
      Text.ofString "_getattribute__" ∉ b.slots.map Slot.field := by
  rw [BuilderShape.readable, Bool.and_eq_true, bne_iff_ne, Bool.not_eq_true', ← Bool.not_eq_true, List.elem_iff]

/-- Reading attributes is left alone if the names do so, and only then. -/
theorem SetUp.leaves_iff (setUp : m.SetUp b settings)
    (visible : ∀ s ∈ b.slots, Text.startsWith "__" s.field = false) :
    m.Leaves "__getattribute__" ↔ b.readable settings = true := by
  have starts : Text.startsWith "__" (Text.ofString "__getattribute__") = true := by decide
  have special : Text.isPrivate (Text.ofString "__getattribute__") = false := by decide
  rw [readable_iff]
  constructor
  · intro leaves
    constructor
    · intro same
      have defined := setUp.finalizer
      rw [same, Text.mangle_of_not_private special, leaves.method] at defined
      cases defined
    · intro named
      obtain ⟨s, member, field⟩ := List.mem_map.mp named
      have stored := setUp.mangle_mem_stored member
      rw [Slot.attribute, field, Text.mangle_of_not_private (by decide)] at stored
      exact leaves.slot stored
  · rintro ⟨finalizer, slot⟩
    constructor
    · intro stored
      rw [setUp.stored, BuilderShape.attributes, List.map_map] at stored
      obtain ⟨s, member, same⟩ := List.mem_map.mp stored
      have spelled := (Text.mangle_eq_special_iff starts special).mp same
      exact slot (List.mem_map.mpr ⟨s, member, (List.cons.inj spelled).2⟩)
    · refine setUp.others _ (fun same => ?_) (by decide) (not_field_of_startsWith visible starts)
      exact finalizer ((Text.mangle_eq_special_iff starts special).mp same.symm)

theorem Ready.leaves (ready : m.Ready b settings) : m.Leaves "__getattribute__" :=
  (ready.leaves_iff ready.visible).mpr (readable_iff.mpr ⟨ready.plain.finalizer_reading, ready.plain.slot⟩)

theorem Ready.kept_not_hook (ready : m.Ready b settings) : b.keptFinalizer settings ∉ BuilderClass.classHooks := by
  intro hook
  have special : ∀ n ∈ BuilderClass.classHooks, Text.startsWith [95, 95] n = true ∧ Text.isPrivate n = false := by
    decide
  obtain ⟨starts, plain⟩ := special _ hook
  exact ready.plain.finalizer_class ((Text.mangle_eq_special_iff starts plain).mp rfl ▸ hook)

theorem isSetter_iff {n : Text} :
    b.isSetter settings n = true ↔ (∃ s ∈ b.slots, s.field = n) ∧ n ≠ b.keptFinalizer settings := by
  rw [BuilderShape.isSetter, Bool.and_eq_true, List.elem_iff, List.mem_map, bne_iff_ne]

/-- A setter is found under the name of its field. -/
theorem SetUp.method?_setter (setUp : m.SetUp b settings)
    (visible : ∀ s ∈ b.slots, Text.startsWith "__" s.field = false) {n : Text}
    (setter : b.isSetter settings n = true) :
    ∃ s ∈ b.slots, s.field = n ∧ m.cls.method? n = some (s.member b.builder).method ∧
      n ∉ BuilderClass.classHooks := by
  obtain ⟨⟨s, member, rfl⟩, different⟩ := isSetter_iff.mp setter
  have hooks : ∀ n ∈ BuilderClass.classHooks, Text.startsWith "__" n = true := by decide
  refine ⟨s, member, rfl, setUp.setter s member different, fun hook => ?_⟩
  exact Bool.false_ne_true ((visible s member).symm.trans (hooks _ hook))

theorem SetUp.not_stored (setUp : m.SetUp b settings) {n : Text} {method : Method}
    (found : m.cls.method? n = some method) : n ∉ m.cls.stored := by
  intro stored
  rw [setUp.apart n stored] at found
  cases found

/-- A builder that was made: each of its slots holds a value or the mark of a slot that was not set. -/
structure Filled (m : Machine) (id : Nat) (h : Heap) : Prop where
  inside : id < h.length
  cells : ∀ a ∈ m.cls.stored, ∃ v, cellOf h id a = some (.ofSlot v)

/-- A method of a builder is called with the builder as its first argument. -/
theorem SetUp.send_eq (setUp : m.SetUp b settings) (leaves : m.Leaves "__getattribute__") {n : Text}
    {method : Method} (found : m.cls.method? n = some method) (own : n ∉ BuilderClass.classHooks)
    (id : Nat) (args : List Datum) (h : Heap) :
    (m.send (.builder id) n args).run h = (m.runBody (m.call 99) true method (.builder id :: args) []).run h := by
  have read := leaves.yields_method h id (setUp.not_stored found) found own
  rw [Yields] at read
  have called : m.callTop (.method id n) args [] = m.runBody (m.call 99) true method (.builder id :: args) [] :=
    call_method 99 found id args []
  rw [send, run_bind, read, ← called]

/-- A method that belongs to the class is called with the class. -/
theorem SetUp.send_classMethod_eq (setUp : m.SetUp b settings) (leaves : m.Leaves "__getattribute__") {n : Text}
    {method : Method} (found : m.cls.method? n = some method) (hook : n ∈ BuilderClass.classHooks)
    (id : Nat) (args : List Datum) (h : Heap) :
    (m.send (.builder id) n args).run h = (m.runBody (m.call 99) true method (.builderClass :: args) []).run h := by
  have read := leaves.yields_classMethod h id (setUp.not_stored found) found hook
  rw [Yields] at read
  have called : m.callTop (.classMethod n) args [] = m.runBody (m.call 99) true method (.builderClass :: args) [] :=
    call_classMethod 99 found args []
  rw [send, run_bind, read, ← called]

/-- A call of a setter with one value fills the cell of its slot and answers the builder. -/
theorem SetUp.yields_setter (setUp : m.SetUp b settings)
    (visible : ∀ s ∈ b.slots, Text.startsWith "__" s.field = false) (leaves : m.Leaves "__getattribute__")
    (makes : m.Makes) {n : Text} (setter : b.isSetter settings n = true) (v : Value) :
    Yields (m.send (.builder id) n [.value v]) h (.builder id)
      (h.modify id (Cells.put (b.keptSlot n) (.value v))) := by
  obtain ⟨s, member, rfl, found, own⟩ := setUp.method?_setter visible setter
  have kept : Text.mangle m.cls.name s.attribute = b.keptSlot s.field := by
    rw [setUp.name]
    rfl
  rw [← kept]
  exact (setUp.send_eq leaves found own id _ h).trans (makes.yields_setter setUp (m.call 99) member v)

/-- A method with a wrong number of arguments fails, on a builder as on the class. -/
theorem SetUp.failsAlways_arguments (setUp : m.SetUp b settings) (leaves : m.Leaves "__getattribute__")
    {n : Text} {method : Method} (found : m.cls.method? n = some method) {args : List Datum}
    (wrong : args.length + 1 ≠ method.params.length) (kind : Heap → Prop) :
    FailsAlways (m.send (.builder id) n args) kind := by
  by_cases hook : n ∈ BuilderClass.classHooks
  · exact (failsAlways_runBody_arguments (.builderClass :: args) wrong kind).of_run
      (setUp.send_classMethod_eq leaves found hook id args)
  · exact (failsAlways_runBody_arguments (.builder id :: args) wrong kind).of_run
      (setUp.send_eq leaves found hook id args)

/-- Whatever is no method cannot be called. -/
theorem SetUp.failsAlways_other (leaves : m.Leaves "__getattribute__") (filled : m.Filled id h) {n : Text}
    (none : m.cls.method? n = none) (args : List Datum) :
    FailsAlways (m.send (.builder id) n args) (Alike id h) := by
  by_cases stored : n ∈ m.cls.stored
  · obtain ⟨v, content⟩ := filled.cells n stored
    refine .after (fun h' alike => leaves.yields_slot stored ((alike n).trans content)) ?_
    cases v with
    | none => exact .throw fun _ => EvalFault.noConfusion
    | some v => exact .throw fun _ => EvalFault.noConfusion
  · rcases leaves.readAttribute_other h id stored none with ⟨v, read⟩ | fails
    · exact .after (fun h' _ => read h') (.throw fun _ => EvalFault.noConfusion)
    · exact fails.bind

/-- Every call but those of a setter with one value, and of the initializer and the finalizer without
any, fails and changes nothing; it fails in the same way as long as its builder does not change. -/
theorem SetUp.failsAlways_send (setUp : m.SetUp b settings)
    (visible : ∀ s ∈ b.slots, Text.startsWith "__" s.field = false) (filled : m.Filled id h)
    {n : Text} {args : List Datum} (finalizer : n ≠ b.keptFinalizer settings ∨ args ≠ [])
    (init : n ≠ Text.ofString "__init__" ∨ args ≠ []) (setter : b.isSetter settings n = false ∨ args.length ≠ 1) :
    FailsAlways (m.send (.builder id) n args) (Alike id h) := by
  by_cases leaves : m.Leaves "__getattribute__"
  · have alone : ∀ {k : Nat}, args ≠ [] → k = 1 → args.length + 1 ≠ k := by
      intro k some one same
      exact some (List.length_eq_zero_iff.mp (by omega))
    by_cases isFinalizer : n = b.keptFinalizer settings
    · subst isFinalizer
      exact setUp.failsAlways_arguments leaves setUp.finalizer
        (alone (finalizer.resolve_left fun different => different rfl) rfl) _
    · by_cases isInit : n = Text.ofString "__init__"
      · subst isInit
        exact setUp.failsAlways_arguments leaves (setUp.init isFinalizer)
          (alone (init.resolve_left fun different => different rfl) rfl) _
      · cases isSetter : b.isSetter settings n with
        | true =>
          obtain ⟨s, _, rfl, found, _⟩ := setUp.method?_setter visible isSetter
          have wrong := setter.resolve_left fun plain => Bool.false_ne_true (plain.symm.trans isSetter)
          exact setUp.failsAlways_arguments leaves found (fun same => wrong (Nat.succ.inj same)) _
        | false =>
          refine SetUp.failsAlways_other leaves filled (setUp.others n isFinalizer isInit fun field => ?_) args
          have named : b.isSetter settings n = true :=
            isSetter_iff.mpr ⟨List.mem_map.mp field, isFinalizer⟩
          exact Bool.false_ne_true (isSetter.symm.trans named)
  · exact (failsAlways_read leaves h).bind

section

variable {j : Journal}

theorem filled_of_follows (follows : Follows m j id h) : m.Filled id h :=
  ⟨follows.inside, fun a stored => ⟨_, follows.cells a stored⟩⟩

theorem Ready.failsOtherwise_send (ready : m.Ready b settings) (follows : Follows m j id h) {n : Text}
    {args : List Datum} (finalizer : n ≠ b.keptFinalizer settings ∨ args ≠ [])
    (init : n ≠ Text.ofString "__init__" ∨ args ≠ []) (setter : b.isSetter settings n = false ∨ args.length ≠ 1) :
    FailsOtherwise (m.send (.builder id) n args) h :=
  (ready.failsAlways_send ready.visible (filled_of_follows follows) finalizer init setter).failsOtherwise (.refl id h)

/-- What the slots of a builder read as where its cells follow a journal. -/
def looks (b : BuilderShape) (j : Journal) (id : Nat) (s : Slot) : Datum :=
  .ofSlot (b.valueOf j id s)

theorem bothMissing_looks (s : Slot) : bothMissing (looks b j id s) .missing = (b.valueOf j id s).isNone := by
  unfold looks
  cases b.valueOf j id s <;> rfl

theorem missingSlots_looks : (missingSlots (looks b j id) b.required).map Slot.field = b.missing j id := by
  unfold missingSlots BuilderShape.missing
  simp only [bothMissing_looks]

theorem Ready.reads (ready : m.Ready b settings) (follows : Follows m j id h) :
    m.Reads (.builder id) (looks b j id) b.slots h := by
  intro s member
  have kept : Text.mangle m.cls.name s.attribute = b.keptSlot s.field := by
    rw [ready.name]
    rfl
  have stored := ready.mangle_mem_stored member
  rw [kept] at stored ⊢
  exact ready.leaves.yields_slot stored (follows.cells _ stored)

/-- Where nothing required is missing, the record is given the values last written. -/
theorem arguments_looks (complete : b.missing j id = []) :
    (b.slots.map fun s => (s.field, argument (looks b j id) s)) = b.written j id := by
  refine List.map_congr_left fun s member => congrArg (Prod.mk s.field) ?_
  have unset : bothMissing (looks b j id s) .missing = (b.valueOf j id s).isNone := bothMissing_looks s
  unfold argument
  cases value : b.valueOf j id s with
  | none =>
    rw [value] at unset
    cases kind : s.kind with
    | required =>
      have inside : s ∈ b.required := List.mem_filter.mpr ⟨member, decide_eq_true kind⟩
      have set := List.filter_eq_nil_iff.mp (List.map_eq_nil_iff.mp complete) s inside
      rw [value] at set
      exact absurd rfl set
    | optional => exact if_pos unset
  | some v =>
    rw [value] at unset
    have read : looks b j id s = .value v := by rw [looks, value]; rfl
    cases s.kind with
    | required => exact read
    | optional => exact (if_neg (Bool.eq_false_iff.mp unset)).trans read

/-- A finalizer that is called without arguments reports the required fields to which nothing was written
since the builder was made, or answers the record of the last writes, if it answers at all. -/
theorem Ready.run_finalizer (ready : m.Ready b settings) (makes : m.Makes) (follows : Follows m j id h) :
    (b.missing j id ≠ [] → Fails (m.send (.builder id) (b.keptFinalizer settings) []) h
        (.missingFields (if settings.collectMissing then b.missing j id else (b.missing j id).take 1)) h) ∧
      (b.missing j id = [] →
        Yields (m.send (.builder id) (b.keptFinalizer settings) []) h (.record (b.written j id)) h ∨
          FailsOtherwise (m.send (.builder id) (b.keptFinalizer settings) []) h) := by
  have named : Datum.IsNamed (.builder id) := trivial
  have called : (m.send (.builder id) (b.keptFinalizer settings) []).run h =
      (m.runBody (m.call 99) true (b.finalMember settings).method [.builder id] []).run h :=
    ready.send_eq ready.leaves ready.finalizer ready.kept_not_hook id [] h
  have reads := ready.reads follows
  constructor
  · intro some
    rw [← missingSlots_looks] at some ⊢
    have found : missingSlots (looks b j id) b.required ≠ [] := fun none => some (List.map_eq_nil_iff.mpr none)
    exact called.trans (fails_finalizer 98 makes.support named reads found)
  · intro complete
    have none : missingSlots (looks b j id) b.required = [] := by
      rw [← missingSlots_looks] at complete
      exact List.map_eq_nil_iff.mp complete
    rw [← arguments_looks complete]
    rcases ready.toSetUp.run_finalizer 98 makes.support named ready.nonempty reads none with record | fails
    · exact Or.inl (called.trans record)
    · exact Or.inr (fails.of_run called)

end

end Machine

end FluentRecords
