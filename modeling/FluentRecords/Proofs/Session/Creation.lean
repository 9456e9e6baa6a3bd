import FluentRecords.Proofs.Session.Slots

/-!
Making builders. The factory answers a new builder with all slots missing, or a record, or it fails; the
builders that exist stay as they are. Only a class whose slots can be set, and whose finalizer does not
take the initializer's place, ever makes a builder.
-/

namespace FluentRecords

namespace Machine

variable {m : Machine} {b : BuilderShape} {settings : Settings} {call : Caller} {h : Heap}

/-- An evaluation answers a record, or fails, and changes no builder. -/
def MakesNothing (r : Run Datum) (h : Heap) : Prop :=
  (∃ fields h', Yields r h (.record fields) h' ∧ Keeps h h') ∨ ∃ fault h', Fails r h fault h' ∧ Keeps h h'

theorem makesNothing_of_fails {r : Run Datum} (fails : FailsOtherwise r h) : MakesNothing r h := by
  obtain ⟨fault, h', failed, _, keeps⟩ := fails
  exact Or.inr ⟨fault, h', failed, keeps⟩

/-- An evaluation makes a new builder whose slots are all missing. -/
structure MakesBuilder (m : Machine) (b : BuilderShape) (settings : Settings) (r : Run Datum) (h h' : Heap) : Prop where
  run : Yields r h (.builder h.length) h'
  keeps : Keeps h h'
  inside : h.length < h'.length
  missing : ∀ a ∈ m.cls.stored, cellOf h' h.length a = some .missing
  makes : m.Makes
  initializer : Text.ofString "__init__" ≠ Text.mangle b.builder settings.finalizerName.val

/-- The factory calls what the name of the class stands for. -/
theorem SetUp.run_factory (setUp : m.SetUp b settings) (fuel : Nat) :
    m.call (fuel + 1) .factory [] [] = m.lookup ⟨false, []⟩ b.builder >>= fun d => m.call fuel d [] [] := by
  change m.runBody (m.call fuel) false m.factory [] [] = _
  rw [setUp.factory, run_runBody [] rfl]
  simp only [functionOf, Emission.factory, Emission.function, Emission.line, execAll, exec, execSimple, eval,
    evalArgs, evalKeywords, spelled, Bool.false_eq_true, if_false, bind_assoc, pure_bind, bind_pure]

theorem SetUp.failsOtherwise_factory (setUp : m.SetUp b settings) (hidden : b.builder = settings.factoryName.val)
    (fuel : Nat) : FailsOtherwise (m.call fuel .factory [] []) h := by
  induction fuel with
  | zero => exact FailsOtherwise.throw fun _ => EvalFault.noConfusion
  | succ fuel ih =>
    rw [setUp.run_factory, lookup_eq (Or.inl rfl), setUp.get?_globals, if_pos hidden]
    exact ih

/-- The slots of the class read as descriptors. -/
theorem SetUp.reads_descriptors (setUp : m.SetUp b settings) (h : Heap) :
    m.Reads .builderClass (fun s => .descriptor (Text.mangle m.cls.name s.attribute)) b.slots h := by
  intro s member
  rw [readAttribute, if_pos (List.elem_eq_true_of_mem (setUp.mangle_mem_stored member))]
  exact .pure

/-- A finalizer that is called on the class finds descriptors in the place of slots, so nothing seems to
be missing: it answers a record of them or fails. -/
theorem SetUp.run_finalizer_class (setUp : m.SetUp b settings) (nonempty : b.slots ≠ []) (fuel : Nat) (h : Heap) :
    (∃ fields, Yields (m.runBody (m.call (fuel + 1)) true (b.finalMember settings).method [.builderClass] []) h
        (.record fields) h) ∨
      FailsOtherwise (m.runBody (m.call (fuel + 1)) true (b.finalMember settings).method [.builderClass] []) h := by
  let look : Slot → Datum := fun s => .descriptor (Text.mangle m.cls.name s.attribute)
  have reads : m.Reads .builderClass look b.slots h := setUp.reads_descriptors h
  have named : Datum.IsNamed .builderClass := trivial
  have complete : missingSlots look b.required = [] :=
    List.filter_eq_nil_iff.mpr fun _ _ => Bool.false_ne_true
  by_cases support : m.HasSupport
  · rcases setUp.run_finalizer fuel support named nonempty reads complete with record | fails
    · exact Or.inl ⟨_, record⟩
    · exact Or.inr fails
  · refine Or.inr (failsOtherwise_finalizer named nonempty ?_)
    intro f frame s member
    rw [Emission.isMissing, eval]
    exact (frame.yields_selfMember (reads s member)).bind_failsOtherwise
      (FailsOtherwise.bind (setUp.failsOtherwise_missing frame support))

/-- The cells of a builder that was just begun cannot be read. -/
theorem failsOtherwise_readEmpty {a : Text} (stored : a ∈ m.cls.stored) :
    FailsOtherwise (m.readAttribute (.builder h.length) a) (h ++ [[]]) := by
  have empty : cellOf (h ++ [[]]) h.length a = none := by
    simp [cellOf, Cells.get?]
  rw [readAttribute, builderAttribute]
  by_cases leaves : m.Leaves "__getattribute__"
  · refine leaves.yields_intercept.bind_failsOtherwise ?_
    rw [if_pos (List.elem_eq_true_of_mem stored)]
    refine Yields.bind_failsOtherwise (a := h ++ [[]]) rfl ?_
    rw [cellOf] at empty
    rw [empty]
    exact (failsAlways_absent (h ++ [[]])).failsOtherwise (.refl _ _)
  · exact ((failsAlways_intercept leaves (h ++ [[]])).failsOtherwise (.refl _ _)).bind

/-- A finalizer that takes the initializer's place cannot make a builder ready. -/
theorem SetUp.failsOtherwise_finalizer_empty (setUp : m.SetUp b settings) (nonempty : b.slots ≠ [])
    (call : Caller) (h : Heap) :
    FailsOtherwise (m.runBody call true (b.finalMember settings).method [.builder h.length] []) (h ++ [[]]) := by
  have named : Datum.IsNamed (.builder h.length) := trivial
  refine failsOtherwise_finalizer named nonempty fun f frame s member => ?_
  rw [Emission.isMissing, Emission.selfMember, eval, eval]
  refine FailsOtherwise.bind (frame.yields_self.bind_failsOtherwise ?_)
  rw [spelled, frame.inClass, if_pos rfl]
  exact failsOtherwise_readEmpty (setUp.mangle_mem_stored member)

/-- Making an empty builder ready marks its slots as missing, or it fails. -/
theorem SetUp.run_makeBuilder (setUp : m.SetUp b settings) (nonempty : b.slots ≠ []) (h : Heap) :
    (∃ h', m.MakesBuilder b settings (m.makeBuilder call [] []) h h') ∨
      MakesNothing (m.makeBuilder call [] []) h := by
  have inside : h.length < (h ++ [([] : Cells)]).length := by simp
  have kept : ∀ h', KeepsOthers h.length (h ++ [[]]) h' → Keeps h h' := by
    intro h' keeps
    refine ⟨Nat.le_trans (Nat.le_of_lt inside) keeps.length, fun id before a => ?_⟩
    rw [keeps.cells id (Nat.lt_trans before inside) (Nat.ne_of_lt before), cellOf_append before]
  by_cases hidden : Text.ofString "__init__" = Text.mangle b.builder settings.finalizerName.val
  · have init : m.cls.method? "__init__" = some (b.finalMember settings).method := hidden ▸ setUp.finalizer
    obtain ⟨fault, h', failed, _, keeps⟩ := setUp.failsOtherwise_finalizer_empty nonempty call h
    refine Or.inr (Or.inr ⟨fault, h', ?_, (Keeps.append h [[]]).trans keeps⟩)
    rw [Fails, Machine.run_makeBuilder [] [] init]
    exact failed.bind
  · have init := setUp.init hidden
    rcases setUp.run_init nonempty call inside with
      ⟨h', marks, keeps, makes, missing⟩ | ⟨_, fault, h', failed, keeps⟩
    · refine Or.inl ⟨h', ?_, kept h' keeps, Nat.lt_of_lt_of_le inside keeps.length, missing, makes, hidden⟩
      rw [Yields, Machine.run_makeBuilder [] [] init]
      exact marks.bind .pure
    · refine Or.inr (Or.inr ⟨fault, h', ?_, kept h' keeps⟩)
      rw [Fails, Machine.run_makeBuilder [] [] init]
      exact failed.bind

/-- A class that is called makes a builder, or it does nothing of the kind. -/
theorem SetUp.run_instantiate (setUp : m.SetUp b settings) (nonempty : b.slots ≠ [])
    (visible : ∀ s ∈ b.slots, Text.startsWith "__" s.field = false) (fuel : Nat) (h : Heap) :
    (∃ h', m.MakesBuilder b settings (m.instantiate (m.call (fuel + 1)) [] []) h h') ∨
      MakesNothing (m.instantiate (m.call (fuel + 1)) [] []) h := by
  rw [instantiate]
  split
  · exact Or.inr (makesNothing_of_fails (FailsOtherwise.throw fun _ => EvalFault.noConfusion))
  · cases taken : m.cls.method? "__new__" with
    | none => exact setUp.run_makeBuilder nonempty h
    | some method =>
      have isFinalizer : Text.ofString "__new__" = Text.mangle b.builder settings.finalizerName.val := by
        by_contra different
        have fresh : Text.ofString "__new__" ∉ b.slots.map Slot.field := by
          intro named
          obtain ⟨s, member, field⟩ := List.mem_map.mp named
          have shown := visible s member
          rw [field] at shown
          exact absurd shown (by decide)
        rw [setUp.others _ different (by decide) fresh] at taken
        cases taken
      rw [isFinalizer, setUp.finalizer] at taken
      cases taken
      rcases setUp.run_finalizer_class nonempty fuel h with ⟨fields, record⟩ | fails
      · exact Or.inr (Or.inl ⟨fields, h, record, .refl h⟩)
      · exact Or.inr (makesNothing_of_fails fails)

/-- The factory makes a builder, or it does nothing of the kind. -/
theorem SetUp.run_create (setUp : m.SetUp b settings) (nonempty : b.slots ≠ [])
    (visible : ∀ s ∈ b.slots, Text.startsWith "__" s.field = false) (h : Heap) :
    (∃ h', m.MakesBuilder b settings (m.create settings.factoryName.val) h h') ∨
      MakesNothing (m.create settings.factoryName.val) h := by
  have found : m.create settings.factoryName.val = m.call (98 + 1 + 1) .factory [] [] := by
    rw [create, lookup_eq (Or.inl rfl), setUp.get?_globals, if_pos rfl]
    rfl
  rw [found]
  by_cases hidden : b.builder = settings.factoryName.val
  · exact Or.inr (makesNothing_of_fails (setUp.failsOtherwise_factory hidden _))
  · have class' : m.call (98 + 1 + 1) .factory [] [] = m.instantiate (m.call (97 + 1)) [] [] := by
      rw [setUp.run_factory, lookup_eq (Or.inl rfl), setUp.get?_globals, if_neg hidden, if_pos rfl]
      rfl
    rw [class']
    exact setUp.run_instantiate nonempty visible 97 h

end Machine

end FluentRecords
