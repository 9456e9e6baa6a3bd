import FluentRecords.Proofs.Session.Sends

/-!
Calls that can be repeated. Whatever a finalizer answers, be it a record, a report or another failure, it
changes no builder, and as long as its builder does not change it answers the same. Besides finalizers
only setters and the initializer do anything at all.
-/

namespace FluentRecords

/-- Wherever what there is of builders is still there an evaluation ends in the same way, and it changes
none of them. -/
def Steady {α : Type} (r : Run α) (h : Heap) : Prop :=
  ∃ result, ∀ h₁, Keeps h h₁ → ∃ h₂, r.run h₁ = (result, h₂) ∧ Keeps h₁ h₂

namespace Steady

variable {α : Type} {r : Run α} {h : Heap}

theorem of_yields {a : α} (yields : ∀ h₁, Keeps h h₁ → Yields r h₁ a h₁) : Steady r h :=
  ⟨.ok a, fun h₁ keeps => ⟨h₁, yields h₁ keeps, .refl h₁⟩⟩

theorem of_fails {fault : EvalFault} (fails : ∀ h₁, Keeps h h₁ → Fails r h₁ fault h₁) : Steady r h :=
  ⟨.error fault, fun h₁ keeps => ⟨h₁, fails h₁ keeps, .refl h₁⟩⟩

theorem of_failsAlways {kind : Heap → Prop} (fails : FailsAlways r kind) (holds : ∀ h₁, Keeps h h₁ → kind h₁) :
    Steady r h := by
  obtain ⟨fault, _, all⟩ := fails
  exact ⟨.error fault, fun h₁ keeps => all h₁ (holds h₁ keeps)⟩

theorem of_run {x : Run α} (steady : Steady r h) (same : ∀ h₁, x.run h₁ = r.run h₁) : Steady x h := by
  obtain ⟨result, all⟩ := steady
  refine ⟨result, fun h₁ keeps => ?_⟩
  obtain ⟨h₂, run, more⟩ := all h₁ keeps
  exact ⟨h₂, (same h₁).trans run, more⟩

end Steady

namespace Machine

variable {m : Machine} {b : BuilderShape} {settings : Settings} {h : Heap} {id : Nat}

/-- What the slot of a builder holds. -/
def content (m : Machine) (h : Heap) (id : Nat) (s : Slot) : Datum :=
  (cellOf h id (Text.mangle m.cls.name s.attribute)).getD .missing

/-- The slots of a builder read as what they hold, as long as it does not change. -/
theorem SetUp.reads_content (setUp : m.SetUp b settings) (leaves : m.Leaves "__getattribute__")
    (filled : m.Filled id h) {h₁ : Heap} (alike : Alike id h h₁) :
    m.Reads (.builder id) (m.content h id) b.slots h₁ := by
  intro s member
  have stored := setUp.mangle_mem_stored member
  obtain ⟨v, cell⟩ := filled.cells _ stored
  rw [content, cell, Option.getD_some]
  exact leaves.yields_slot stored ((alike _).trans cell)

/-- A finalizer is steady where its receiver always reads the same. -/
theorem SetUp.steady_body (setUp : m.SetUp b settings) (nonempty : b.slots ≠ []) (support : m.HasSupport)
    {receiver : Datum} (named : receiver.IsNamed) {look : Slot → Datum}
    (reads : ∀ h₁, Keeps h h₁ → m.Reads receiver look b.slots h₁) :
    Steady (m.runBody (m.call 99) true (b.finalMember settings).method [receiver] []) h := by
  by_cases complete : missingSlots look b.required = []
  · by_cases constructs : m.Constructs b (finalFrame b settings receiver)
    · exact .of_yields fun h₁ keeps =>
        setUp.yields_finalizer 98 support named constructs complete (reads h₁ keeps)
    · exact .of_failsAlways (setUp.failsAlways_finalizer 98 support named nonempty constructs complete) reads
  · exact .of_fails fun h₁ keeps => fails_finalizer 98 support named (reads h₁ keeps) complete

/-- A finalizer that is called without arguments is steady, on a builder as on the class. -/
theorem SetUp.steady_finalizer (setUp : m.SetUp b settings) (nonempty : b.slots ≠ []) (makes : m.Makes)
    (filled : m.Filled id h) : Steady (m.send (.builder id) (b.keptFinalizer settings) []) h := by
  by_cases leaves : m.Leaves "__getattribute__"
  · by_cases hook : b.keptFinalizer settings ∈ BuilderClass.classHooks
    · refine Steady.of_run ?_ (setUp.send_classMethod_eq leaves setUp.finalizer hook id [])
      exact setUp.steady_body nonempty makes.support trivial fun h₁ _ => setUp.reads_descriptors h₁
    · refine Steady.of_run ?_ (setUp.send_eq leaves setUp.finalizer hook id [])
      exact setUp.steady_body nonempty makes.support trivial
        fun h₁ keeps => setUp.reads_content leaves filled (keeps.alike filled.inside)
  · exact .of_failsAlways (failsAlways_read leaves h).bind fun h₁ keeps => keeps.alike filled.inside

/-- What a call on a builder can be: a setter with one value, the finalizer or the initializer without
any, or one that fails. -/
theorem SetUp.send_cases (setUp : m.SetUp b settings)
    (visible : ∀ s ∈ b.slots, Text.startsWith "__" s.field = false) (filled : m.Filled id h) (n : Text)
    (args : List Value) :
    (b.callable settings n = true ∧ ∃ v, args = [v]) ∨ (n = b.keptFinalizer settings ∧ args = []) ∨
      (m.Leaves "__getattribute__" ∧ n = Text.ofString "__init__" ∧ args = []) ∨
      FailsAlways (m.send (.builder id) n (args.map .value)) (Alike id h) := by
  by_cases leaves : m.Leaves "__getattribute__"
  · have readable := (setUp.leaves_iff visible).mp leaves
    have unused : args ≠ [] → args.map Datum.value ≠ [] := fun some none => some (List.map_eq_nil_iff.mp none)
    by_cases none : args = []
    · by_cases isFinalizer : n = b.keptFinalizer settings
      · exact Or.inr (Or.inl ⟨isFinalizer, none⟩)
      · by_cases isInit : n = Text.ofString "__init__"
        · exact Or.inr (Or.inr (Or.inl ⟨leaves, isInit, none⟩))
        · refine Or.inr (Or.inr (Or.inr ?_))
          exact setUp.failsAlways_send visible filled (Or.inl isFinalizer) (Or.inl isInit) (Or.inr (by simp [none]))
    · by_cases sets : b.isSetter settings n = true ∧ ∃ v, args = [v]
      · refine Or.inl ⟨?_, sets.2⟩
        rw [BuilderShape.callable, sets.1, readable, Bool.and_self]
      · refine Or.inr (Or.inr (Or.inr ?_))
        refine setUp.failsAlways_send visible filled (Or.inr (unused none)) (Or.inr (unused none)) ?_
        by_cases setter : b.isSetter settings n = true
        · refine Or.inr fun one => sets ⟨setter, List.length_eq_one_iff.mp ?_⟩
          rwa [List.length_map] at one
        · exact Or.inl (Bool.eq_false_iff.mpr setter)
  · exact Or.inr (Or.inr (Or.inr (failsAlways_read leaves h).bind))

end Machine

end FluentRecords
