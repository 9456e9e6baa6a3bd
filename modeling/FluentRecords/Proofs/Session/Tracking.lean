import FluentRecords.Proofs.Session.Sends

/-!
Sessions keep track of what they write. Whatever a step is, the cells of each builder that is held
afterwards follow the journal, and if the step invokes the finalizer of a builder, its answer is the one
that the journal asks for.
-/

namespace FluentRecords

namespace Session

variable {m : Machine} {b : BuilderShape} {settings : Settings}

/-- A session tracks a journal: what is held are builders that follow it, and records. -/
structure Tracks (m : Machine) (b : BuilderShape) (settings : Settings) (s : SessionState) (j : Journal) :
    Prop where
  held : ∀ on d, Cells.get? s.held on = some d →
    (∃ id, d = .builder id ∧ Follows m j id s.heap) ∨ ∃ fields, d = .record fields
  makes : ∀ on id, Cells.get? s.held on = some (.builder id) →
    m.Makes ∧ Text.ofString "__init__" ≠ b.keptFinalizer settings
  known : ∀ w ∈ j, w.builder < s.heap.length

theorem Tracks.start : Tracks m b settings start [] where
  held _ _ found := by cases found
  makes _ _ found := by cases found
  known _ member := by cases member

namespace Tracks

variable {s : SessionState} {j : Journal} {h' : Heap}

/-- Nothing is lost where what there was of builders is still there. -/
theorem keeps (tracks : Tracks m b settings s j) (kept : Keeps s.heap h') :
    Tracks m b settings { s with heap := h' } j where
  held on d found := by
    rcases tracks.held on d found with ⟨id, rfl, follows⟩ | record
    · exact Or.inl ⟨id, rfl, follows.keeps kept⟩
    · exact Or.inr record
  makes := tracks.makes
  known w member := Nat.lt_of_lt_of_le (tracks.known w member) kept.length

theorem write (tracks : Tracks m b settings s j) {id : Nat} (inside : id < s.heap.length) (a : Text) (v : Value) :
    Tracks m b settings { s with heap := s.heap.modify id (Cells.put a (.value v)) } (⟨id, a, v⟩ :: j) where
  held on d found := by
    rcases tracks.held on d found with ⟨id', rfl, follows⟩ | record
    · exact Or.inl ⟨id', rfl, follows.write inside a v⟩
    · exact Or.inr record
  makes := tracks.makes
  known w member := by
    rw [List.length_modify]
    rcases List.mem_cons.mp member with rfl | old
    · exact inside
    · exact tracks.known w old

/-- A builder that starts over is alone in that. -/
theorem restart (tracks : Tracks m b settings s j) {id : Nat} (inside : id < s.heap.length)
    (kept : KeepsOthers id s.heap h') (missing : ∀ a ∈ m.cls.stored, cellOf h' id a = some .missing) :
    Tracks m b settings { s with heap := h' } (j.filter (·.builder != id)) where
  held on d found := by
    rcases tracks.held on d found with ⟨id', rfl, follows⟩ | record
    · refine Or.inl ⟨id', rfl, ?_⟩
      by_cases same : id' = id
      · subst same
        exact .restart (Nat.lt_of_lt_of_le inside kept.length) missing
      · exact follows.restart_other same kept
    · exact Or.inr record
  makes := tracks.makes
  known w member := Nat.lt_of_lt_of_le (tracks.known w (List.mem_of_mem_filter member)) kept.length

/-- A new builder has nothing written to it. -/
theorem hold (tracks : Tracks m b settings s j) {r : Run Datum} (made : m.MakesBuilder b settings r s.heap h')
    (on : Text) :
    Tracks m b settings ⟨h', Cells.put on (.builder s.heap.length) s.held⟩ j where
  held on' d found := by
    rw [Cells.get?_put] at found
    split at found
    · cases found
      refine Or.inl ⟨_, rfl, made.inside, fun a stored => ?_⟩
      have fresh : Journal.last? j s.heap.length a = none := by
        rw [Journal.last?, Option.map_eq_none_iff, List.find?_eq_none]
        intro w member same
        have new := beq_iff_eq.mp (Bool.and_eq_true_iff.mp same).1
        exact absurd (tracks.known w member) (new ▸ Nat.lt_irrefl _)
      rw [made.missing a stored, fresh]
      rfl
    · exact (tracks.keeps made.keeps).held on' d found
  makes on' id found := by
    rw [Cells.get?_put] at found
    split at found
    · exact ⟨made.makes, made.initializer⟩
    · exact tracks.makes on' id found
  known w member := Nat.lt_trans (tracks.known w member) made.inside

end Tracks

/-- How a call of a finalizer ends according to a journal. -/
structure Finalizes (b : BuilderShape) (settings : Settings) (j : Journal) (id : Nat)
    (result : Except EvalFault Datum) : Prop where
  missing : b.missing j id ≠ [] → result =
    .error (.missingFields (if settings.collectMissing then b.missing j id else (b.missing j id).take 1))
  complete : b.missing j id = [] →
    result = .ok (.record (b.written j id)) ∨ ∃ fault, result = .error fault ∧ fault.IsOther

section

variable {s : SessionState} {j : Journal} {on : Text} {id : Nat}

theorem Tracks.follows (tracks : Tracks m b settings s j) (held : Cells.get? s.held on = some (.builder id)) :
    Follows m j id s.heap := by
  rcases tracks.held on _ held with ⟨id', same, follows⟩ | ⟨fields, same⟩
  · cases same
    exact follows
  · cases same

/-- A call of the finalizer without arguments ends according to the journal and leaves the session to
track it. -/
theorem Tracks.finalizer (tracks : Tracks m b settings s j) (ready : m.Ready b settings)
    (held : Cells.get? s.held on = some (.builder id)) :
    ∃ result h', (m.send (.builder id) (b.keptFinalizer settings) []).run s.heap = (result, h') ∧
      Tracks m b settings { s with heap := h' } j ∧ Finalizes b settings j id result := by
  obtain ⟨makes, _⟩ := tracks.makes on id held
  obtain ⟨reports, answers⟩ := ready.run_finalizer makes (tracks.follows held)
  by_cases complete : b.missing j id = []
  · rcases answers complete with record | ⟨fault, h', failed, other, kept⟩
    · exact ⟨_, _, record, tracks, fun some => absurd complete some, fun _ => Or.inl rfl⟩
    · exact ⟨_, _, failed, tracks.keeps kept, fun some => absurd complete some,
        fun _ => Or.inr ⟨fault, rfl, other⟩⟩
  · exact ⟨_, _, reports complete, tracks, fun _ => rfl, fun none => absurd none complete⟩

/-- A failing call changes nothing. -/
theorem Tracks.fails (tracks : Tracks m b settings s j) {r : Run Datum} (fails : FailsOtherwise r s.heap) :
    ∃ result h', r.run s.heap = (result, h') ∧ Tracks m b settings { s with heap := h' } j := by
  obtain ⟨fault, h', failed, _, kept⟩ := fails
  exact ⟨_, _, failed, tracks.keeps kept⟩

/-- A call of the initializer starts the builder over. -/
theorem Tracks.init (tracks : Tracks m b settings s j) (ready : m.Ready b settings)
    (held : Cells.get? s.held on = some (.builder id)) :
    ∃ result h', (m.send (.builder id) "__init__" []).run s.heap = (result, h') ∧
      Tracks m b settings { s with heap := h' } (j.filter (·.builder != id)) := by
  obtain ⟨makes, unhidden⟩ := tracks.makes on id held
  have inside := (tracks.follows held).inside
  have called := ready.send_eq ready.leaves (ready.init unhidden) (by decide) id [] s.heap
  rcases ready.run_init ready.nonempty (m.call 99) inside with ⟨h', marks, kept, _, missing⟩ | ⟨not, _⟩
  · exact ⟨_, _, called.trans marks, tracks.restart inside kept missing⟩
  · exact absurd makes not

/-- A setter that is called with a value writes it. -/
theorem Tracks.set (tracks : Tracks m b settings s j) (ready : m.Ready b settings)
    (held : Cells.get? s.held on = some (.builder id)) {n : Text} (setter : b.isSetter settings n = true)
    (v : Value) :
    ∃ h', Yields (m.send (.builder id) n [.value v]) s.heap (.builder id) h' ∧
      Tracks m b settings { s with heap := h' } (⟨id, b.keptSlot n, v⟩ :: j) :=
  ⟨_, ready.yields_setter ready.visible ready.leaves (tracks.makes on id held).1 setter v,
    tracks.write (tracks.follows held).inside _ v⟩

/-- Whatever is called on a builder, the session keeps track. -/
theorem Tracks.call (tracks : Tracks m b settings s j) (ready : m.Ready b settings)
    (held : Cells.get? s.held on = some (.builder id)) (n : Text) (args : List Value) :
    ∃ result h', (m.send (.builder id) n (args.map .value)).run s.heap = (result, h') ∧
      Tracks m b settings { s with heap := h' } ((Step.call on n args).recordOn b settings j id) ∧
      ((Step.call on n args).finalizes b settings = true →
        Finalizes b settings ((Step.call on n args).recordOn b settings j id) id result) := by
  have follows := tracks.follows held
  obtain ⟨_, unhidden⟩ := tracks.makes on id held
  cases args with
  | nil =>
    by_cases isFinalizer : n = b.keptFinalizer settings
    · subst isFinalizer
      obtain ⟨result, h', run, tracked, ends⟩ := tracks.finalizer ready held
      rw [Step.recordOn, if_neg (Ne.symm unhidden)]
      exact ⟨result, h', run, tracked, fun _ => ends⟩
    · have other : (Step.call on n []).finalizes b settings ≠ true := by
        rw [Step.finalizes, beq_eq_false_iff_ne.mpr isFinalizer]
        exact Bool.false_ne_true
      by_cases isInit : n = Text.ofString "__init__"
      · subst isInit
        obtain ⟨result, h', run, tracked⟩ := tracks.init ready held
        exact ⟨result, h', run, tracked, fun final => absurd final other⟩
      · have fails : FailsOtherwise (m.send (.builder id) n []) s.heap :=
          ready.failsOtherwise_send follows (Or.inl isFinalizer) (Or.inl isInit) (Or.inr (by decide))
        obtain ⟨result, h', run, tracked⟩ := tracks.fails fails
        rw [Step.recordOn, if_neg isInit]
        exact ⟨result, h', run, tracked, fun final => absurd final other⟩
  | cons v more =>
    have other : (Step.call on n (v :: more)).finalizes b settings ≠ true := by
      rw [Step.finalizes, List.isEmpty_cons, Bool.and_false]
      exact Bool.false_ne_true
    have given : (v :: more).map Datum.value ≠ [] := List.cons_ne_nil _ _
    have fails := fun wrong => tracks.fails
      (ready.failsOtherwise_send (n := n) follows (Or.inr given) (Or.inr given) wrong)
    cases more with
    | nil =>
      cases setter : b.isSetter settings n with
      | true =>
        obtain ⟨h', run, tracked⟩ := tracks.set ready held setter v
        refine ⟨_, h', run, ?_, fun final => absurd final other⟩
        rw [Step.recordOn, if_pos setter]
        exact tracked
      | false =>
        obtain ⟨result, h', run, tracked⟩ := fails (Or.inl setter)
        refine ⟨result, h', run, ?_, fun final => absurd final other⟩
        rw [Step.recordOn, if_neg (Bool.eq_false_iff.mp setter)]
        exact tracked
    | cons w rest =>
      obtain ⟨result, h', run, tracked⟩ := fails (Or.inr (by simp))
      exact ⟨result, h', run, tracked, fun final => absurd final other⟩

/-- Whatever chain is called on a builder, the session keeps track. -/
theorem Tracks.chain (tracks : Tracks m b settings s j) (ready : m.Ready b settings)
    (held : Cells.get? s.held on = some (.builder id)) (calls : List (Text × Value)) :
    ∃ result h', (m.sendAll settings.finalizerName.val (.builder id) calls).run s.heap = (result, h') ∧
      Tracks m b settings { s with heap := h' } ((Step.chain on calls).recordOn b settings j id) ∧
      ((Step.chain on calls).finalizes b settings = true →
        Finalizes b settings ((Step.chain on calls).recordOn b settings j id) id result) := by
  induction calls generalizing s j with
  | nil =>
    rw [Machine.sendAll]
    by_cases direct : settings.finalizerName.val = b.keptFinalizer settings
    · rw [direct]
      obtain ⟨result, h', run, tracked, ends⟩ := tracks.finalizer ready held
      exact ⟨result, h', run, tracked, fun _ => ends⟩
    · have other : (Step.chain on []).finalizes b settings ≠ true := by
        rw [Step.finalizes, beq_eq_false_iff_ne.mpr direct]
        exact Bool.false_ne_true
      have notInit : settings.finalizerName.val ≠ Text.ofString "__init__" := by
        intro same
        rw [BuilderShape.keptFinalizer, same] at direct
        exact direct (Text.mangle_of_not_private (by decide)).symm
      have fails : FailsOtherwise (m.send (.builder id) settings.finalizerName.val []) s.heap :=
        ready.failsOtherwise_send (tracks.follows held) (Or.inl direct) (Or.inl notInit) (Or.inr (by decide))
      obtain ⟨result, h', run, tracked⟩ := tracks.fails fails
      exact ⟨result, h', run, tracked, fun final => absurd final other⟩
  | cons c rest ih =>
    obtain ⟨n, v⟩ := c
    cases setter : b.isSetter settings n with
    | true =>
      have recorded : (Step.chain on ((n, v) :: rest)).recordOn b settings j id =
          (Step.chain on rest).recordOn b settings (⟨id, b.keptSlot n, v⟩ :: j) id := by
        simp only [Step.recordOn, List.takeWhile_cons, setter, if_true, Journal.set, List.foldl_cons]
      have final : (Step.chain on ((n, v) :: rest)).finalizes b settings =
          (Step.chain on rest).finalizes b settings := by
        simp only [Step.finalizes, List.all_cons, setter, Bool.true_and]
      obtain ⟨h₁, run, tracked⟩ := tracks.set ready held setter v
      obtain ⟨result, h', more, kept, ends⟩ := ih tracked held
      rw [recorded, final]
      refine ⟨result, h', ?_, kept, ends⟩
      rw [Yields] at run
      rw [Machine.sendAll, run_bind, run]
      exact more
    | false =>
      have recorded : (Step.chain on ((n, v) :: rest)).recordOn b settings j id = j := by
        simp only [Step.recordOn, List.takeWhile_cons, setter, Bool.false_eq_true, if_false, Journal.set,
          List.foldl_nil]
      have other : (Step.chain on ((n, v) :: rest)).finalizes b settings ≠ true := by
        simp only [Step.finalizes, List.all_cons, setter, Bool.false_and, Bool.and_false]
        exact Bool.false_ne_true
      have given : [Datum.value v] ≠ [] := List.cons_ne_nil _ _
      have fails : FailsOtherwise
          (m.sendAll settings.finalizerName.val (.builder id) ((n, v) :: rest)) s.heap :=
        (ready.failsOtherwise_send (tracks.follows held) (Or.inr given) (Or.inr given) (Or.inl setter)).bind
      obtain ⟨result, h', run, tracked⟩ := tracks.fails fails
      rw [recorded]
      exact ⟨result, h', run, tracked, fun final => absurd final other⟩

theorem Tracks.assign (tracks : Tracks m b settings s j) (setUp : m.SetUp b settings)
    (held : Cells.get? s.held on = some (.builder id)) (n : Text) (v : Value) :
    ∃ result h', (m.writeAttribute (.builder id) n (.value v)).run s.heap = (result, h') ∧
      Tracks m b settings { s with heap := h' } ((Step.assign on n v).recordOn b settings j id) := by
  obtain ⟨makes, _⟩ := tracks.makes on id held
  rw [Step.recordOn, ← setUp.stored_eq]
  by_cases stored : n ∈ m.cls.stored
  · rw [if_pos (List.elem_eq_true_of_mem stored)]
    exact ⟨_, _, makes.sets.yields_write s.heap id (.value v) (makes.settable n stored),
      tracks.write (tracks.follows held).inside n v⟩
  · rw [if_neg fun elem => stored (List.mem_of_elem_eq_true elem)]
    have fails : FailsOtherwise (m.writeAttribute (.builder id) n (.value v)) s.heap :=
      Machine.failsOtherwise_write fun can => stored can.2.stored
    obtain ⟨fault, h', failed, _, kept⟩ := fails
    exact ⟨_, h', failed, tracks.keeps kept⟩

/-- Nothing can be called on a record. -/
theorem failsOtherwise_sendRecord (fields : List (Text × Datum)) (n : Text) (args : List Datum) (h : Heap) :
    FailsOtherwise (m.send (.record fields) n args) h :=
  FailsOtherwise.bind (Machine.failsOtherwise_noAttribute _ _)

theorem failsOtherwise_sendAllRecord (finalizer : Text) (fields : List (Text × Datum))
    (calls : List (Text × Value)) (h : Heap) :
    FailsOtherwise (m.sendAll finalizer (.record fields) calls) h := by
  cases calls with
  | nil => exact failsOtherwise_sendRecord fields finalizer [] h
  | cons c rest => exact (failsOtherwise_sendRecord fields c.1 [.value c.2] h).bind

/-- An answer to a call of a finalizer is the one that a journal asks for: it reports the required fields
to which nothing was written, all of them or the first one, and if there are none, it reports nothing of
the kind; a record that it answers is the one of the last writes. -/
structure AnswersLastWrites (b : BuilderShape) (settings : Settings) (j : Journal) (id : Nat)
    (answer : StepAnswer) : Prop where
  missing : b.missing j id ≠ [] → answer =
    .failed (.eval (.missingFields (if settings.collectMissing then b.missing j id else (b.missing j id).take 1)))
  complete : b.missing j id = [] → ∀ names, answer ≠ .failed (.eval (.missingFields names))
  record : ∀ fields, answer = .built fields → fields = b.written j id

theorem holding_eq (s : SessionState) (on : Text) (use : Datum → StepAnswer × SessionState) :
    holding s on use = match Cells.get? s.held on with
      | some d => use d
      | none => (.failed (.unheld on), s) := by
  rw [holding, Cells.get?]
  cases s.held.find? (·.1 == on) with
  | none => rfl
  | some found => rfl

/-- The answer that shows how a call ended. -/
def shownResult (held : List (Text × Datum)) : Except EvalFault Datum → StepAnswer
  | .ok d => shown held d
  | .error f => .failed (.eval f)

theorem running_shown {r : Run Datum} {result : Except EvalFault Datum} {h' : Heap}
    (run : r.run s.heap = (result, h')) :
    running s r (fun d s => (shown s.held d, s)) = (shownResult s.held result, { s with heap := h' }) := by
  rw [running, run]
  cases result with
  | ok d => rfl
  | error f => rfl

theorem running_assigned {write : Run Unit} {result : Except EvalFault Unit} {h' : Heap}
    (run : write.run s.heap = (result, h')) (answer : StepAnswer) :
    (running s (write >>= fun _ => pure .missing) fun _ s => (answer, s)).2 = { s with heap := h' } := by
  rw [running, run_bind, run]
  cases result with
  | ok _ => rfl
  | error f => rfl

theorem Finalizes.answers {result : Except EvalFault Datum} (ends : Finalizes b settings j id result)
    (held : List (Text × Datum)) : AnswersLastWrites b settings j id (shownResult held result) := by
  by_cases complete : b.missing j id = []
  · rcases ends.complete complete with rfl | ⟨fault, rfl, other⟩
    · exact ⟨fun some => absurd complete some, fun _ _ => StepAnswer.noConfusion,
        fun fields same => (StepAnswer.built.inj same).symm⟩
    · refine ⟨fun some => absurd complete some, fun _ names same => ?_, fun _ => StepAnswer.noConfusion⟩
      exact other names (StepFault.eval.inj (StepAnswer.failed.inj same))
  · rw [ends.missing complete]
    exact ⟨fun _ => rfl, fun none => absurd none complete, fun _ => StepAnswer.noConfusion⟩

theorem Tracks.create (tracks : Tracks m b settings s j) (setUp : m.SetUp b settings) (nonempty : b.slots ≠ [])
    (visible : ∀ s ∈ b.slots, Text.startsWith "__" s.field = false) (on : Text) :
    Tracks m b settings (step m settings s (.create on)).2 j := by
  rcases setUp.run_create nonempty visible s.heap with
    ⟨h', made⟩ | ⟨fields, h', run, kept⟩ | ⟨fault, h', run, kept⟩
  · have run := made.run
    rw [Yields] at run
    rw [step, running, run]
    exact tracks.hold made on
  · rw [Yields] at run
    rw [step, running, run]
    have others := tracks.keeps kept
    exact {
      held := by
        intro on' d found
        rw [Cells.get?_put] at found
        split at found
        · exact Or.inr ⟨fields, (Option.some.inj found).symm⟩
        · exact others.held on' d found
      makes := by
        intro on' id found
        rw [Cells.get?_put] at found
        split at found
        · cases found
        · exact others.makes on' id found
      known := others.known }
  · rw [Fails] at run
    rw [step, running, run]
    exact tracks.keeps kept

theorem builderOf?_eq_some : builderOf? s.held on = some id ↔ Cells.get? s.held on = some (.builder id) := by
  rw [builderOf?]
  split
  · rename_i found
    rw [found]
    simp only [Option.some.injEq, Datum.builder.injEq]
  · rename_i other
    exact iff_of_false (Option.some_ne_none id).symm (other id)

theorem builderOf?_eq_none (held : ∀ id, Cells.get? s.held on ≠ some (.builder id)) :
    builderOf? s.held on = none := by
  rw [Option.eq_none_iff_forall_ne_some]
  exact fun id found => held id (builderOf?_eq_some.mp found)

/-- What is known after a step: the session keeps track, and if the finalizer of a builder was invoked, the
answer is the one that the journal asks for. -/
def Tracked (m : Machine) (b : BuilderShape) (settings : Settings) (s : SessionState) (j : Journal) (st : Step)
    (done : StepAnswer × SessionState) : Prop :=
  Tracks m b settings done.2 (st.record b settings s.held j) ∧
    ∀ id, builderOf? s.held st.on = some id → st.finalizes b settings = true →
      AnswersLastWrites b settings (st.record b settings s.held j) id done.1

/-- A step on something that is no builder writes nothing. -/
theorem tracked_other {st : Step} (held : ∀ id, Cells.get? s.held st.on ≠ some (.builder id))
    {done : StepAnswer × SessionState} (kept : Tracks m b settings done.2 j) :
    Tracked m b settings s j st done := by
  rw [Tracked, Step.record, builderOf?_eq_none held]
  exact ⟨kept, fun _ none => by cases none⟩

/-- A step on a builder is recorded, and what it answers concerns that builder. -/
theorem tracked_builder {st : Step} (held : Cells.get? s.held st.on = some (.builder id))
    {done : StepAnswer × SessionState} (kept : Tracks m b settings done.2 (st.recordOn b settings j id))
    (answers : st.finalizes b settings = true →
      AnswersLastWrites b settings (st.recordOn b settings j id) id done.1) :
    Tracked m b settings s j st done := by
  rw [Tracked, Step.record, builderOf?_eq_some.mpr held]
  exact ⟨kept, fun _ known final => Option.some.inj known ▸ answers final⟩

/-- What is held is a builder or a record, so a step on something held is decided for these. -/
theorem Tracks.holding_cases {P : StepAnswer × SessionState → Prop} (tracks : Tracks m b settings s j) (on : Text)
    (use : Datum → StepAnswer × SessionState)
    (unheld : Cells.get? s.held on = none → P (.failed (.unheld on), s))
    (builder : ∀ id, Cells.get? s.held on = some (.builder id) → P (use (.builder id)))
    (record : ∀ fields, Cells.get? s.held on = some (.record fields) → P (use (.record fields))) :
    P (Session.holding s on use) := by
  rw [holding_eq]
  cases found : Cells.get? s.held on with
  | none => exact unheld found
  | some d =>
    rcases tracks.held on d found with ⟨id, rfl, _⟩ | ⟨fields, rfl⟩
    · exact builder id found
    · exact record fields found

/-- A step that does something with what is held keeps track, if it does so with a builder and with a
record. -/
theorem Tracks.holding (tracks : Tracks m b settings s j) (st : Step)
    (use : Datum → StepAnswer × SessionState)
    (builder : ∀ id, Cells.get? s.held st.on = some (.builder id) → Tracked m b settings s j st (use (.builder id)))
    (record : ∀ fields, Tracks m b settings (use (.record fields)).2 j) :
    Tracked m b settings s j st (holding s st.on use) := by
  refine tracks.holding_cases st.on use (fun none => tracked_other (fun id held => ?_) tracks) builder
    fun fields found => tracked_other (fun id held => ?_) (record fields)
  · cases none.symm.trans held
  · cases found.symm.trans held

/-- A step that fails is shown to fail and leaves the session to track the same. -/
theorem Tracks.running_fails (tracks : Tracks m b settings s j) {r : Run Datum} (fails : FailsOtherwise r s.heap) :
    Tracks m b settings (running s r fun d s => (shown s.held d, s)).2 j := by
  obtain ⟨result, h', run, kept⟩ := tracks.fails fails
  rw [running_shown run]
  exact kept

/-- Nothing can be assigned to an attribute of a record. -/
theorem Tracks.assign_record (tracks : Tracks m b settings s j) (fields : List (Text × Datum)) (n : Text) (v : Value) :
    Tracks m b settings (running s (m.writeAttribute (.record fields) n (.value v) >>= fun _ => pure .missing)
      fun _ s => (.assigned n, s)).2 j := by
  have fails : FailsOtherwise (m.writeAttribute (.record fields) n (.value v)) s.heap :=
    Machine.failsOtherwise_noAttribute _ _
  obtain ⟨fault, h', run, _, kept⟩ := fails
  rw [running_assigned run]
  exact tracks.keeps kept

/-- Whatever the next step is, the session keeps track. -/
theorem Tracks.step (tracks : Tracks m b settings s j) (ready : m.Ready b settings) (st : Step) :
    Tracked m b settings s j st (step m settings s st) := by
  cases st with
  | create on =>
    by_cases builder : ∃ id, Cells.get? s.held on = some (.builder id)
    · obtain ⟨id, held⟩ := builder
      exact tracked_builder held (tracks.create ready.toSetUp ready.nonempty ready.visible on)
        fun final => by cases final
    · exact tracked_other (fun id held => builder ⟨id, held⟩)
        (tracks.create ready.toSetUp ready.nonempty ready.visible on)
  | call on n args =>
    refine tracks.holding (.call on n args) _ (fun id held => ?_)
      fun fields => tracks.running_fails (failsOtherwise_sendRecord fields n _ s.heap)
    obtain ⟨result, h', run, kept, ends⟩ := tracks.call ready held n args
    rw [running_shown run]
    exact tracked_builder held kept fun final => (ends final).answers s.held
  | chain on calls =>
    refine tracks.holding (.chain on calls) _ (fun id held => ?_)
      fun fields => tracks.running_fails (failsOtherwise_sendAllRecord _ fields calls s.heap)
    obtain ⟨result, h', run, kept, ends⟩ := tracks.chain ready held calls
    rw [running_shown run]
    exact tracked_builder held kept fun final => (ends final).answers s.held
  | assign on n v =>
    refine tracks.holding (.assign on n v) _ (fun id held => ?_) fun fields => tracks.assign_record fields n v
    obtain ⟨result, h', run, kept⟩ := tracks.assign ready.toSetUp held n v
    have kept' : Tracks m b settings _ _ := running_assigned run (.assigned n) ▸ kept
    exact tracked_builder held kept' fun final => by cases final
  | describe on =>
    refine tracks.holding (.describe on) _ (fun id held => ?_) fun fields => tracks
    exact tracked_builder held tracks fun final => by cases final

end

end Session

end FluentRecords
