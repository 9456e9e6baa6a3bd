import FluentRecords.Proofs.Session.Run
import FluentRecords.Proofs.Session.Cells

/-!
Attributes of builders. A slot reads as the content of its cell and a setter or the finalizer as a method,
unless the class defines a name that takes the place of reading; a slot can be set unless the class
defines one that takes the place of setting. Whatever else is tried fails and changes no builder.
-/

namespace FluentRecords

/-- A fault that does not report missing fields. -/
def EvalFault.IsOther (f : EvalFault) : Prop :=
  ∀ names, f ≠ .missingFields names

/-- An evaluation fails for another reason than missing fields and changes no builder. -/
def FailsOtherwise {α : Type} (r : Run α) (h : Heap) : Prop :=
  ∃ fault h', Fails r h fault h' ∧ fault.IsOther ∧ Keeps h h'

theorem FailsOtherwise.throw {α : Type} {fault : EvalFault} {h : Heap} (other : fault.IsOther) :
    FailsOtherwise (throw fault : Run α) h :=
  ⟨fault, h, .throw, other, .refl h⟩

theorem FailsOtherwise.of_run {α : Type} {x y : Run α} {h : Heap} (fails : FailsOtherwise y h)
    (same : x.run h = y.run h) : FailsOtherwise x h := by
  obtain ⟨fault, h', failed, other, keeps⟩ := fails
  exact ⟨fault, h', same.trans failed, other, keeps⟩

theorem FailsOtherwise.bind {α β : Type} {x : Run α} {k : α → Run β} {h : Heap} (first : FailsOtherwise x h) :
    FailsOtherwise (x >>= k) h := by
  obtain ⟨fault, h', failed, other, keeps⟩ := first
  exact ⟨fault, h', failed.bind, other, keeps⟩

theorem Yields.bind_failsOtherwise {α β : Type} {x : Run α} {k : α → Run β} {h : Heap} {a : α}
    (first : Yields x h a h) (next : FailsOtherwise (k a) h) : FailsOtherwise (x >>= k) h := by
  obtain ⟨fault, h', failed, other, keeps⟩ := next
  exact ⟨fault, h', first.bind_fails failed, other, keeps⟩

/-- On all heaps of a kind an evaluation fails with the same fault, which reports no missing fields, and
changes no builder. -/
def FailsAlways {α : Type} (r : Run α) (kind : Heap → Prop) : Prop :=
  ∃ fault, fault.IsOther ∧ ∀ h, kind h → ∃ h', Fails r h fault h' ∧ Keeps h h'

theorem FailsAlways.failsOtherwise {α : Type} {r : Run α} {kind : Heap → Prop} {h : Heap}
    (fails : FailsAlways r kind) (holds : kind h) : FailsOtherwise r h := by
  obtain ⟨fault, other, all⟩ := fails
  obtain ⟨h', failed, keeps⟩ := all h holds
  exact ⟨fault, h', failed, other, keeps⟩

theorem FailsAlways.of_run {α : Type} {x y : Run α} {kind : Heap → Prop} (fails : FailsAlways y kind)
    (same : ∀ h, x.run h = y.run h) : FailsAlways x kind := by
  obtain ⟨fault, other, all⟩ := fails
  refine ⟨fault, other, fun h holds => ?_⟩
  obtain ⟨h', failed, keeps⟩ := all h holds
  exact ⟨h', (same h).trans failed, keeps⟩

theorem FailsAlways.throw {α : Type} {fault : EvalFault} {kind : Heap → Prop} (other : fault.IsOther) :
    FailsAlways (throw fault : Run α) kind :=
  ⟨fault, other, fun h _ => ⟨h, .throw, .refl h⟩⟩

theorem FailsAlways.bind {α β : Type} {x : Run α} {k : α → Run β} {kind : Heap → Prop}
    (first : FailsAlways x kind) : FailsAlways (x >>= k) kind := by
  obtain ⟨fault, other, all⟩ := first
  refine ⟨fault, other, fun h holds => ?_⟩
  obtain ⟨h', failed, keeps⟩ := all h holds
  exact ⟨h', failed.bind, keeps⟩

theorem FailsAlways.after {α β : Type} {x : Run α} {k : α → Run β} {kind : Heap → Prop} {a : α}
    (first : ∀ h, kind h → Yields x h a h) (next : FailsAlways (k a) kind) : FailsAlways (x >>= k) kind := by
  obtain ⟨fault, other, all⟩ := next
  refine ⟨fault, other, fun h holds => ?_⟩
  obtain ⟨h', failed, keeps⟩ := all h holds
  exact ⟨h', (first h holds).bind_fails failed, keeps⟩

namespace Machine

variable {m : Machine} {h : Heap} {id : Nat} {a : Text} {d : Datum}

/-- The class leaves an operation as it is: it does not define the name that takes its place. -/
structure Leaves (m : Machine) (hook : Text) : Prop where
  slot : hook ∉ m.cls.stored
  method : m.cls.method? hook = none

theorem Leaves.yields_intercept {hook : Text} {given : Nat} (leaves : m.Leaves hook) :
    Yields (m.intercept id hook given) h () h := by
  have unstored : m.cls.stored.elem hook = false :=
    Bool.eq_false_iff.mpr fun stored => leaves.slot (List.mem_of_elem_eq_true stored)
  rw [intercept, unstored, leaves.method]
  exact .pure

theorem failsAlways_noAttribute {α : Type} (d : Datum) (a : Text) (kind : Heap → Prop) :
    FailsAlways (m.noAttribute d a : Run α) kind :=
  .throw fun _ => EvalFault.noConfusion

theorem failsOtherwise_noAttribute {α : Type} (d : Datum) (a : Text) :
    FailsOtherwise (m.noAttribute d a : Run α) h :=
  FailsOtherwise.throw fun _ => EvalFault.noConfusion

/-- How an operation fails whose place is taken depends on the cells of its builder only. -/
theorem failsAlways_intercept {hook : Text} {given : Nat} (taken : ¬ m.Leaves hook) (h : Heap) :
    FailsAlways (m.intercept id hook given) (Alike id h) := by
  rw [intercept]
  split
  · cases content : cellOf h id hook with
    | some d =>
      refine ⟨.notCallable (m.kindName d), fun _ => EvalFault.noConfusion, fun h' alike => ⟨h', ?_, .refl h'⟩⟩
      have same := (alike hook).trans content
      refine Yields.bind_fails (a := h') rfl ?_
      rw [cellOf] at same
      rw [same]
      exact .throw
    | none =>
      refine ⟨.noAttribute (m.owner (.builder id)) hook, fun _ => EvalFault.noConfusion,
        fun h' alike => ⟨h', ?_, .refl h'⟩⟩
      have same := (alike hook).trans content
      refine Yields.bind_fails (a := h') rfl ?_
      rw [cellOf] at same
      rw [same]
      exact .throw
  · rename_i unstored
    split
    · exact .throw fun _ => EvalFault.noConfusion
    · rename_i none
      exact absurd ⟨fun stored => unstored (List.elem_eq_true_of_mem stored), none⟩ taken

theorem failsAlways_absent (h : Heap) : FailsAlways (m.absent id a) (Alike id h) := by
  rw [absent]
  by_cases leaves : m.Leaves "__getattr__"
  · exact .after (fun _ _ => leaves.yields_intercept) (failsAlways_noAttribute _ _ _)
  · exact (failsAlways_intercept leaves h).bind

theorem Leaves.yields_slot (leaves : m.Leaves "__getattribute__") (stored : a ∈ m.cls.stored)
    (content : cellOf h id a = some d) : Yields (m.readAttribute (.builder id) a) h d h := by
  rw [readAttribute, builderAttribute]
  refine leaves.yields_intercept.bind ?_
  rw [if_pos (List.elem_eq_true_of_mem stored)]
  refine Yields.bind (a := h) rfl ?_
  rw [cellOf] at content
  rw [content]
  exact .pure

theorem Leaves.yields_member {method : Method} (leaves : m.Leaves "__getattribute__") (h : Heap) (id : Nat)
    (unstored : a ∉ m.cls.stored) (found : m.cls.method? a = some method) :
    Yields (m.readAttribute (.builder id) a) h
      (if BuilderClass.classHooks.elem a then .classMethod a else .method id a) h := by
  have notSlot : ¬ m.cls.stored.elem a = true := fun stored => unstored (List.mem_of_elem_eq_true stored)
  rw [readAttribute, builderAttribute]
  refine leaves.yields_intercept.bind ?_
  rw [if_neg notSlot, found]
  exact .pure

theorem Leaves.yields_method {method : Method} (leaves : m.Leaves "__getattribute__") (h : Heap) (id : Nat)
    (unstored : a ∉ m.cls.stored) (found : m.cls.method? a = some method)
    (own : a ∉ BuilderClass.classHooks) : Yields (m.readAttribute (.builder id) a) h (.method id a) h := by
  have read := leaves.yields_member h id unstored found
  rwa [if_neg fun hook => own (List.mem_of_elem_eq_true hook)] at read

/-- A method that belongs to the class is found as one of the class. -/
theorem Leaves.yields_classMethod {method : Method} (leaves : m.Leaves "__getattribute__") (h : Heap) (id : Nat)
    (unstored : a ∉ m.cls.stored) (found : m.cls.method? a = some method)
    (hook : a ∈ BuilderClass.classHooks) : Yields (m.readAttribute (.builder id) a) h (.classMethod a) h := by
  have read := leaves.yields_member h id unstored found
  rwa [if_pos (List.elem_eq_true_of_mem hook)] at read

/-- Where reading is taken over, no attribute can be read. -/
theorem failsAlways_read (taken : ¬ m.Leaves "__getattribute__") (h : Heap) :
    FailsAlways (m.readAttribute (.builder id) a) (Alike id h) :=
  (failsAlways_intercept taken h).bind

/-- What is neither a slot nor a method reads as a value or is not there. -/
theorem Leaves.readAttribute_other (leaves : m.Leaves "__getattribute__") (h : Heap) (id : Nat)
    (unstored : a ∉ m.cls.stored) (none : m.cls.method? a = none) :
    (∃ v, ∀ h, Yields (m.readAttribute (.builder id) a) h (.value v) h) ∨
      FailsAlways (m.readAttribute (.builder id) a) (Alike id h) := by
  have notSlot : ¬ m.cls.stored.elem a = true := fun stored => unstored (List.mem_of_elem_eq_true stored)
  rw [readAttribute, builderAttribute, if_neg notSlot, none]
  dsimp only
  split
  · exact Or.inl ⟨_, fun _ => leaves.yields_intercept.bind .pure⟩
  · split
    · exact Or.inl ⟨_, fun _ => leaves.yields_intercept.bind .pure⟩
    · exact Or.inr (.after (fun _ _ => leaves.yields_intercept) (failsAlways_absent h))

/-- A slot that can be set. -/
structure Settable (m : Machine) (a : Text) : Prop where
  stored : a ∈ m.cls.stored
  dict : a ≠ Text.ofString "__dict__"
  weak : a ≠ Text.ofString "__weakref__"

theorem Leaves.yields_write (leaves : m.Leaves "__setattr__") (h : Heap) (id : Nat) (d : Datum)
    (settable : m.Settable a) :
    Yields (m.writeAttribute (.builder id) a d) h () (h.modify id (Cells.put a d)) := by
  rw [writeAttribute]
  refine leaves.yields_intercept.bind ?_
  rw [if_pos (List.elem_eq_true_of_mem settable.stored), if_neg settable.dict, if_neg settable.weak]
  rfl

theorem failsAlways_write (not : ¬ (m.Leaves "__setattr__" ∧ m.Settable a)) (h : Heap) :
    FailsAlways (m.writeAttribute (.builder id) a d) (Alike id h) := by
  rw [writeAttribute]
  by_cases leaves : m.Leaves "__setattr__"
  · refine .after (fun _ _ => leaves.yields_intercept) ?_
    split
    · rename_i stored
      split
      · exact .throw fun _ => EvalFault.noConfusion
      · split
        · exact .throw fun _ => EvalFault.noConfusion
        · rename_i dict weak
          exact absurd ⟨leaves, List.mem_of_elem_eq_true stored, dict, weak⟩ not
    · split
      · exact .throw fun _ => EvalFault.noConfusion
      · exact failsAlways_noAttribute _ _ _
  · exact (failsAlways_intercept leaves h).bind

theorem failsOtherwise_write (not : ¬ (m.Leaves "__setattr__" ∧ m.Settable a)) :
    FailsOtherwise (m.writeAttribute (.builder id) a d) h :=
  (failsAlways_write not h).failsOtherwise (.refl id h)

end Machine

end FluentRecords
