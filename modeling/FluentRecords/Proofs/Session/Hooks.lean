import FluentRecords.Proofs.Session.Tracking

/-!
Names that take over how attributes are read. A finalizer that belongs to the class finds descriptors in
the place of slots, and where reading attributes is taken over, nothing can be called on a builder. Either
way no call of the finalizer reports missing fields.
-/

namespace FluentRecords

namespace Machine

variable {m : Machine} {b : BuilderShape} {settings : Settings} {h : Heap} {id : Nat}

/-- Where reading attributes is left alone and the finalizer is found on builders, all names do so. -/
theorem SetUp.plainNames (setUp : m.SetUp b settings)
    (visible : ∀ s ∈ b.slots, Text.startsWith "__" s.field = false) (leaves : m.Leaves "__getattribute__")
    (own : b.keptFinalizer settings ∉ BuilderClass.classHooks) :
    PlainNames settings.finalizerName.val (b.slots.map Slot.field) where
  finalizer_reading := (readable_iff.mp ((setUp.leaves_iff visible).mp leaves)).1
  finalizer_class hook := by
    have special : ∀ n ∈ BuilderClass.classHooks, Text.isPrivate n = false := by decide
    rw [BuilderShape.keptFinalizer, Text.mangle_of_not_private (special _ hook)] at own
    exact own hook
  slot := (readable_iff.mp ((setUp.leaves_iff visible).mp leaves)).2

/-- An evaluation answers a record, or fails for another reason than missing fields. -/
def ReportsNothing (r : Run Datum) (h : Heap) : Prop :=
  (∃ fields h', Yields r h (.record fields) h') ∨ ∃ fault h', Fails r h fault h' ∧ fault.IsOther

theorem reportsNothing_of_fails {r : Run Datum} (fails : FailsOtherwise r h) : ReportsNothing r h := by
  obtain ⟨fault, h', failed, other, _⟩ := fails
  exact Or.inr ⟨fault, h', failed, other⟩

/-- With other names a call of the finalizer reports nothing. -/
theorem SetUp.run_finalizer_taken (setUp : m.SetUp b settings) (nonempty : b.slots ≠ [])
    (visible : ∀ s ∈ b.slots, Text.startsWith "__" s.field = false)
    (taken : ¬ PlainNames settings.finalizerName.val (b.slots.map Slot.field)) (h : Heap) (id : Nat) :
    ReportsNothing (m.send (.builder id) (b.keptFinalizer settings) []) h := by
  by_cases leaves : m.Leaves "__getattribute__"
  · have hook : b.keptFinalizer settings ∈ BuilderClass.classHooks := by
      by_contra own
      exact taken (setUp.plainNames visible leaves own)
    have called := setUp.send_classMethod_eq leaves setUp.finalizer hook id [] h
    rcases setUp.run_finalizer_class nonempty 98 h with ⟨fields, record⟩ | fails
    · exact Or.inl ⟨fields, h, called.trans record⟩
    · exact reportsNothing_of_fails (fails.of_run called)
  · exact reportsNothing_of_fails ((failsAlways_read leaves h).failsOtherwise (.refl id h)).bind

/-- A setter answers its builder, or it fails. -/
theorem SetUp.run_setter_taken (setUp : m.SetUp b settings)
    (visible : ∀ s ∈ b.slots, Text.startsWith "__" s.field = false) {n : Text}
    (setter : b.isSetter settings n = true) (v : Value) (h : Heap) (id : Nat) :
    (∃ h', Yields (m.send (.builder id) n [.value v]) h (.builder id) h') ∨
      FailsOtherwise (m.send (.builder id) n [.value v]) h := by
  by_cases leaves : m.Leaves "__getattribute__"
  · obtain ⟨s, _, rfl, found, own⟩ := setUp.method?_setter visible setter
    have called := setUp.send_eq leaves found own id [.value v] h
    rcases setter_answers (m.call 99) h id s v with ⟨h', answers⟩ | fails
    · exact Or.inl ⟨h', called.trans answers⟩
    · exact Or.inr (fails.of_run called)
  · exact Or.inr ((failsAlways_read leaves h).failsOtherwise (.refl id h)).bind

/-- Nor does a chain of setters that ends with the finalizer report anything. -/
theorem SetUp.run_chain_taken (setUp : m.SetUp b settings) (nonempty : b.slots ≠ [])
    (visible : ∀ s ∈ b.slots, Text.startsWith "__" s.field = false)
    (taken : ¬ PlainNames settings.finalizerName.val (b.slots.map Slot.field))
    (direct : settings.finalizerName.val = b.keptFinalizer settings) {calls : List (Text × Value)}
    (setters : ∀ c ∈ calls, b.isSetter settings c.1 = true) (h : Heap) :
    ReportsNothing (m.sendAll settings.finalizerName.val (.builder id) calls) h := by
  induction calls generalizing h with
  | nil =>
    rw [sendAll, direct]
    exact setUp.run_finalizer_taken nonempty visible taken h id
  | cons c rest ih =>
    rw [sendAll]
    rcases setUp.run_setter_taken visible (setters c List.mem_cons_self) c.2 h id with ⟨h', answers⟩ | fails
    · rcases ih (fun c member => setters c (List.mem_cons_of_mem _ member)) h' with
        ⟨fields, h'', record⟩ | ⟨fault, h'', failed, other⟩
      · exact Or.inl ⟨fields, h'', answers.bind record⟩
      · exact Or.inr ⟨fault, h'', answers.bind_fails failed, other⟩
    · exact reportsNothing_of_fails fails.bind

end Machine

namespace Session

variable {m : Machine} {b : BuilderShape} {settings : Settings} {s : SessionState} {id : Nat}

theorem answer_of_reportsNothing {r : Run Datum} (silent : Machine.ReportsNothing r s.heap) (names : List Text) :
    (running s r fun d s => (shown s.held d, s)).1 ≠ .failed (.eval (.missingFields names)) := by
  intro reports
  rcases silent with ⟨fields, h', record⟩ | ⟨fault, h', failed, other⟩
  · rw [running_shown record] at reports
    cases reports
  · rw [running_shown failed] at reports
    exact other names (StepFault.eval.inj (StepAnswer.failed.inj reports))

/-- Where names take over how attributes are read, no step that invokes the finalizer of a builder reports
missing fields. -/
theorem step_taken (setUp : m.SetUp b settings) (nonempty : b.slots ≠ [])
    (visible : ∀ s ∈ b.slots, Text.startsWith "__" s.field = false)
    (taken : ¬ PlainNames settings.finalizerName.val (b.slots.map Slot.field)) {st : Step}
    (held : builderOf? s.held st.on = some id) (final : st.finalizes b settings = true) (names : List Text) :
    (step m settings s st).1 ≠ .failed (.eval (.missingFields names)) := by
  cases st with
  | call on n args =>
    have found : Cells.get? s.held on = some (.builder id) := builderOf?_eq_some.mp held
    obtain ⟨named, none⟩ := Bool.and_eq_true_iff.mp final
    rw [beq_iff_eq.mp named, List.isEmpty_iff.mp none, step, holding_eq, found]
    exact answer_of_reportsNothing (setUp.run_finalizer_taken nonempty visible taken s.heap id) names
  | chain on calls =>
    have found : Cells.get? s.held on = some (.builder id) := builderOf?_eq_some.mp held
    obtain ⟨direct, setters⟩ := Bool.and_eq_true_iff.mp final
    rw [step, holding_eq, found]
    exact answer_of_reportsNothing (setUp.run_chain_taken nonempty visible taken (beq_iff_eq.mp direct)
      (List.all_eq_true.mp setters) s.heap) names
  | create on => cases final
  | assign on n v => cases final
  | describe on => cases final

end Session

end FluentRecords
