import FluentRecords.Proofs.Session.Finalizer

/-!
Setters and the initializer. A setter fills the cell of its slot and answers the builder; the initializer
marks every slot as missing. That a builder could be initialized at all shows that its slots can be set.
-/

namespace FluentRecords

namespace Machine

variable {m : Machine} {b : BuilderShape} {settings : Settings} {call : Caller} {f : Frame} {h : Heap} {id : Nat}

/-- What it takes to make a builder: the support module is found, and every slot can be set. -/
structure Makes (m : Machine) : Prop where
  support : m.HasSupport
  sets : m.Leaves "__setattr__"
  settable : ∀ a ∈ m.cls.stored, m.Settable a

theorem SetUp.mangle_mem_stored (setUp : m.SetUp b settings) {s : Slot} (member : s ∈ b.slots) :
    Text.mangle m.cls.name s.attribute ∈ m.cls.stored := by
  rw [setUp.stored, setUp.name]
  exact List.mem_map_of_mem (List.mem_map_of_mem member)

theorem SetUp.stored_starts (setUp : m.SetUp b settings) {a : Text} (stored : a ∈ m.cls.stored) :
    ∃ rest, a = 95 :: rest := by
  rw [setUp.stored] at stored
  obtain ⟨attr, member, rfl⟩ := List.mem_map.mp stored
  obtain ⟨s, _, rfl⟩ := List.mem_map.mp member
  by_cases mangled : Text.IsMangled b.builder s.attribute
  · exact ⟨_, Text.mangle_of_isMangled mangled⟩
  · exact ⟨_, Text.mangle_of_not_isMangled mangled⟩

theorem InMethod.yields_assign {receiver d : Datum} {attr : Text} {value : Expr} {h' : Heap}
    (frame : InMethod f receiver) (given : Yields (m.eval call f value) h d h)
    (write : Yields (m.writeAttribute receiver (Text.mangle m.cls.name attr) d) h () h') :
    Yields (m.exec call f (Emission.assignSlot attr value)) h (.next f.locals) h' := by
  rw [Emission.assignSlot, Emission.line, Emission.selfMember, exec, execSimple]
  refine given.bind (frame.yields_self.bind (Yields.bind (a := ()) ?_ .pure))
  rwa [spelled, frame.inClass, if_pos rfl]

/-- The frame of a setter. -/
def setterFrame (id : Nat) (v : Value) : Frame :=
  ⟨true, [(Text.ofString "self", .builder id), (Text.ofString "value", .value v)]⟩

theorem inMethod_setterFrame (id : Nat) (v : Value) : InMethod (setterFrame id v) (.builder id) := by
  refine .initial trivial rfl fun n d found => ?_
  by_cases same : Text.ofString "value" = n
  · subst same
    cases found
    trivial
  · have passed : (Text.ofString "value" == n) = false := beq_eq_false_iff_ne.mpr same
    rw [Cells.get?, List.find?_cons, passed] at found
    cases found

theorem yields_given (call : Caller) (id : Nat) (v : Value) :
    Yields (m.eval call (setterFrame id v) (.name "value")) h (.value v) h := by
  rw [eval, spelled_of_not_private (by decide), lookup_eq (Or.inr (by decide))]
  rfl

theorem run_setter (s : Slot) (v : Value) :
    m.runBody call true (s.member b.builder).method [.builder id, .value v] [] =
      m.execAll call (setterFrame id v)
          [Emission.assignSlot s.attribute (.name "value"), Emission.line (.returnValue (some (.name "self")))] >>=
        fun flow => match flow with
          | .next _ => pure (.value .none)
          | .done d => pure d :=
  run_runBody [(Text.ofString "self", .builder id), (Text.ofString "value", .value v)] rfl

/-- A setter that can write fills the cell of its slot and answers its builder. -/
theorem yields_setter {s : Slot} {v : Value} {h' : Heap}
    (write : Yields (m.writeAttribute (.builder id) (Text.mangle m.cls.name s.attribute) (.value v)) h () h') :
    Yields (m.runBody call true (s.member b.builder).method [.builder id, .value v] []) h (.builder id) h' := by
  have frame := inMethod_setterFrame id v
  rw [run_setter]
  exact Yields.bind (yields_execAll_cons (frame.yields_assign (yields_given call id v) write)
    (yields_execAll_single (yields_return frame.yields_self))) .pure

theorem Makes.yields_setter (makes : m.Makes) (setUp : m.SetUp b settings) (call : Caller) {s : Slot}
    (member : s ∈ b.slots) (v : Value) :
    Yields (m.runBody call true (s.member b.builder).method [.builder id, .value v] []) h (.builder id)
      (h.modify id (Cells.put (Text.mangle m.cls.name s.attribute) (.value v))) :=
  Machine.yields_setter (makes.sets.yields_write h id (.value v) (makes.settable _ (setUp.mangle_mem_stored member)))

/-- A setter answers its builder, or it fails. -/
theorem setter_answers (call : Caller) (h : Heap) (id : Nat) (s : Slot) (v : Value) :
    (∃ h', Yields (m.runBody call true (s.member b.builder).method [.builder id, .value v] []) h (.builder id) h') ∨
      FailsOtherwise (m.runBody call true (s.member b.builder).method [.builder id, .value v] []) h := by
  by_cases can : m.Leaves "__setattr__" ∧ m.Settable (Text.mangle m.cls.name s.attribute)
  · exact Or.inl ⟨_, Machine.yields_setter (can.1.yields_write h id (.value v) can.2)⟩
  · have frame := inMethod_setterFrame id v
    rw [run_setter]
    refine Or.inr (FailsOtherwise.bind (failsOtherwise_execAll_cons ?_))
    rw [Emission.assignSlot, Emission.line, Emission.selfMember, exec, execSimple]
    refine (yields_given call id v).bind_failsOtherwise (frame.yields_self.bind_failsOtherwise (FailsOtherwise.bind ?_))
    rw [spelled, frame.inClass, if_pos rfl]
    exact failsOtherwise_write can

theorem SetUp.failsOtherwise_missing (setUp : m.SetUp b settings) {receiver : Datum}
    (frame : InMethod f receiver) (unsupported : ¬ m.HasSupport) : FailsOtherwise (m.eval call f Emission.missing) h := by
  have unstored : ¬ m.cls.stored.elem (Text.ofString "MISSING") = true := by
    intro stored
    obtain ⟨rest, starts⟩ := setUp.stored_starts (List.mem_of_elem_eq_true stored)
    cases starts
  rw [Emission.missing, Emission.support, eval, eval, spelled_of_not_private (by decide),
    spelled_of_not_private (by decide), lookup_eq (Or.inr (by decide)), frame.unhidden, Option.none_or]
  cases found : Cells.get? m.globals supportAlias with
  | none => exact FailsOtherwise.bind (FailsOtherwise.throw fun _ => EvalFault.noConfusion)
  | some d =>
    refine Yields.bind_failsOtherwise .pure ?_
    have meant := found
    rw [setUp.get?_globals] at meant
    split at meant
    · cases meant
      exact failsOtherwise_noAttribute _ _
    · split at meant
      · cases meant
        rw [readAttribute, if_neg unstored]
        exact failsOtherwise_noAttribute _ _
      · rw [if_pos rfl] at meant
        cases meant
        exact absurd found unsupported

/-- Marking a slot as missing either works, or it fails before it changes a builder. -/
theorem InMethod.run_initSlot (call : Caller) (h : Heap) (frame : InMethod f (.builder id))
    (setUp : m.SetUp b settings) {s : Slot} (member : s ∈ b.slots) :
    (m.HasSupport ∧ m.Leaves "__setattr__" ∧ m.Settable (Text.mangle m.cls.name s.attribute) ∧
      Yields (m.exec call f (Emission.initSlot s)) h (.next f.locals)
        (h.modify id (Cells.put (Text.mangle m.cls.name s.attribute) .missing))) ∨
      ¬ m.Makes ∧ FailsOtherwise (m.exec call f (Emission.initSlot s)) h := by
  rw [Emission.initSlot, Emission.line, Emission.selfMember, exec, execSimple]
  by_cases support : m.HasSupport
  · by_cases can : m.Leaves "__setattr__" ∧ m.Settable (Text.mangle m.cls.name s.attribute)
    · refine Or.inl ⟨support, can.1, can.2, (frame.yields_missing support).bind (frame.yields_self.bind ?_)⟩
      rw [spelled, frame.inClass, if_pos rfl]
      exact (can.1.yields_write h id .missing can.2).bind .pure
    · refine Or.inr ⟨fun makes => can ⟨makes.sets, makes.settable _ (setUp.mangle_mem_stored member)⟩,
        (frame.yields_missing support).bind_failsOtherwise
          (frame.yields_self.bind_failsOtherwise (FailsOtherwise.bind ?_))⟩
      rw [spelled, frame.inClass, if_pos rfl]
      exact failsOtherwise_write can
  · exact Or.inr ⟨fun makes => support makes.support, (setUp.failsOtherwise_missing frame support).bind⟩

/-- Marking slots as missing either works for all of them, or it fails; it changes one builder only, and
what is marked stays so. -/
theorem InMethod.run_initSlots (frame : InMethod f (.builder id)) (setUp : m.SetUp b settings) (call : Caller)
    {ss : List Slot} (members : ∀ s ∈ ss, s ∈ b.slots) (inside : id < h.length) :
    (∃ h', Yields (m.execAll call f (ss.map Emission.initSlot)) h (.next f.locals) h' ∧ KeepsOthers id h h' ∧
        (∀ a, cellOf h id a = some .missing → cellOf h' id a = some .missing) ∧
        ∀ s ∈ ss, m.HasSupport ∧ m.Leaves "__setattr__" ∧ m.Settable (Text.mangle m.cls.name s.attribute) ∧
          cellOf h' id (Text.mangle m.cls.name s.attribute) = some .missing) ∨
      ¬ m.Makes ∧ ∃ fault h', Fails (m.execAll call f (ss.map Emission.initSlot)) h fault h' ∧
        KeepsOthers id h h' := by
  induction ss generalizing h with
  | nil =>
    refine Or.inl ⟨h, .pure, (Keeps.refl h).keepsOthers id, fun _ marked => marked, ?_⟩
    intro s member
    cases member
  | cons s rest ih =>
    rw [List.map_cons]
    rcases frame.run_initSlot call h setUp (members s List.mem_cons_self) with
      ⟨support, sets, settable, marks⟩ | ⟨not, fault, h', failed, _, keeps⟩
    · have others := KeepsOthers.modify inside (Text.mangle m.cls.name s.attribute) .missing
      have still : id < (h.modify id (Cells.put (Text.mangle m.cls.name s.attribute) .missing)).length := by
        rwa [List.length_modify]
      have marked : ∀ a, cellOf h id a = some .missing ∨ a = Text.mangle m.cls.name s.attribute →
          cellOf (h.modify id (Cells.put (Text.mangle m.cls.name s.attribute) .missing)) id a = some .missing := by
        intro a before
        rw [cellOf_modify inside]
        split
        · rfl
        · rename_i different
          exact before.resolve_right fun same => different ⟨rfl, same⟩
      rcases ih (fun s member => members s (List.mem_cons_of_mem _ member)) still with
        ⟨h', more, keeps, stays, all⟩ | ⟨not, fault, h', failed, keeps⟩
      · refine Or.inl ⟨h', yields_execAll_cons marks more, others.trans keeps,
          fun a before => stays a (marked a (Or.inl before)), fun s' member => ?_⟩
        rcases List.mem_cons.mp member with rfl | later
        · exact ⟨support, sets, settable, stays _ (marked _ (Or.inr rfl))⟩
        · exact all s' later
      · exact Or.inr ⟨not, fault, h', fails_execAll_next marks failed, others.trans keeps⟩
    · exact Or.inr ⟨not, fault, h', fails_execAll_cons failed, keeps.keepsOthers id⟩

/-- The initializer marks every slot as missing, which shows that builders can be made, or it fails; it
changes one builder only. -/
theorem SetUp.run_init (setUp : m.SetUp b settings) (nonempty : b.slots ≠ []) (call : Caller)
    (inside : id < h.length) :
    (∃ h', Yields (m.runBody call true b.initMember.method [.builder id] []) h (.value .none) h' ∧
        KeepsOthers id h h' ∧ m.Makes ∧ ∀ a ∈ m.cls.stored, cellOf h' id a = some .missing) ∨
      ¬ m.Makes ∧ ∃ fault h', Fails (m.runBody call true b.initMember.method [.builder id] []) h fault h' ∧
        KeepsOthers id h h' := by
  have frame : InMethod ⟨true, [(Text.ofString "self", .builder id)]⟩ (.builder id) := .alone trivial
  rw [run_runBody [(Text.ofString "self", .builder id)] rfl]
  rcases frame.run_initSlots setUp call (fun _ member => member) inside with
    ⟨h', marks, keeps, _, all⟩ | ⟨not, fault, h', failed, keeps⟩
  · have slotOf : ∀ a ∈ m.cls.stored, ∃ s ∈ b.slots, Text.mangle m.cls.name s.attribute = a := by
      intro a stored
      rw [setUp.stored, BuilderShape.attributes, List.map_map] at stored
      rw [setUp.name]
      exact List.mem_map.mp stored
    obtain ⟨first, others, slots⟩ := List.exists_cons_of_ne_nil nonempty
    obtain ⟨support, sets, _, _⟩ := all first (slots ▸ List.mem_cons_self)
    refine Or.inl ⟨h', marks.bind .pure, keeps, ⟨support, sets, fun a stored => ?_⟩, fun a stored => ?_⟩
    · obtain ⟨s, member, rfl⟩ := slotOf a stored
      exact (all s member).2.2.1
    · obtain ⟨s, member, rfl⟩ := slotOf a stored
      exact (all s member).2.2.2
  · exact Or.inr ⟨not, fault, h', failed.bind, keeps⟩

end Machine

end FluentRecords
