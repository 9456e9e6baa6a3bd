import FluentRecords.Proofs.Session.LastWrites
import FluentRecords.Proofs.Session.Steady

/-!
Builders are isolated. What a step does to a builder that is held reaches that builder only: a setter or an
assignment fills one cell, a finalizer none, a step that fails none either, and a chain does what its calls
do one at a time. This holds in every state that a session reaches, whatever the names are; the names
decide which setters can be called.
-/

namespace FluentRecords

namespace Session

/-- The states that sessions reach. -/
inductive Reached (m : Machine) (settings : Settings) : SessionState → Prop
  | start : Reached m settings start
  | step {s : SessionState} (st : Step) : Reached m settings s → Reached m settings (step m settings s st).2

/-- Nothing of what there was has changed. -/
structure Unchanged (before after : SessionState) : Prop where
  held : after.held = before.held
  heap : Keeps before.heap after.heap

/-- One cell of one builder has got a value, and nothing else has changed. -/
structure Fills (id : Nat) (a : Text) (v : Value) (before after : SessionState) : Prop where
  held : after.held = before.held
  length : after.heap.length = before.heap.length
  cells : ∀ id' a', cellOf after.heap id' a' =
    if id' = id ∧ a' = a then some (.value v) else cellOf before.heap id' a'

/-- The answer to a step that fails. -/
def Failed (done : StepAnswer × SessionState) : Prop :=
  ∃ fault, done.1 = .failed fault

/-- A chain whose calls are made one at a time, up to the first that fails; the finalizer comes last. -/
def inTurn (m : Machine) (settings : Settings) (on : Text) :
    SessionState → List (Text × Value) → StepAnswer × SessionState
  | s, [] => step m settings s (.call on settings.finalizerName.val [])
  | s, (n, v) :: rest =>
    match step m settings s (.call on n [v]) with
    | (.failed fault, s') => (.failed fault, s')
    | (_, s') => inTurn m settings on s' rest

/-- All builders after some setters of one of them. -/
def filledBy (b : BuilderShape) (id : Nat) (heap : Heap) (calls : List (Text × Value)) : Heap :=
  calls.foldl (fun heap c => heap.modify id (Cells.put (b.keptSlot c.1) (.value c.2))) heap

variable {m : Machine} {b : BuilderShape} {settings : Settings} {s : SessionState} {j : Journal} {on : Text}
  {id : Nat} {h' : Heap}

theorem Fills.of_modify (inside : id < s.heap.length) (a : Text) (v : Value) :
    Fills id a v s { s with heap := s.heap.modify id (Cells.put a (.value v)) } where
  held := rfl
  length := List.length_modify _ _ _
  cells id' a' := cellOf_modify inside id' a a' (.value v)

theorem builderOf?_eq_nameOf? (held : builderOf? s.held on = some id) :
    ∃ name, nameOf? s.held id = some name := by
  have found := builderOf?_eq_some.mp held
  rw [Cells.get?, Option.map_eq_some_iff] at found
  obtain ⟨entry, first, same⟩ := found
  cases named : s.held.find? (fun e => isBuilder id e.2) with
  | some e => exact ⟨e.1, by rw [nameOf?, named]; rfl⟩
  | none =>
    have other := List.find?_eq_none.mp named entry (List.mem_of_find?_eq_some first)
    rw [same] at other
    exact absurd (beq_self_eq_true id) other

/-- A builder that is held is shown under a name. -/
theorem shown_builder (held : builderOf? s.held on = some id) :
    ∃ name, shown s.held (.builder id) = .builder name ∧ nameOf? s.held id = some name := by
  obtain ⟨name, named⟩ := builderOf?_eq_nameOf? held
  exact ⟨name, by rw [shown, named], named⟩

section

variable (s : SessionState) (held : Cells.get? s.held on = some (.builder id))
include held

theorem step_call {n : Text} {args : List Value} {result : Except EvalFault Datum}
    (run : (m.send (.builder id) n (args.map .value)).run s.heap = (result, h')) :
    step m settings s (.call on n args) = (shownResult s.held result, { s with heap := h' }) := by
  rw [step, holding_eq, held]
  exact running_shown run

theorem step_chain {calls : List (Text × Value)} {result : Except EvalFault Datum}
    (run : (m.sendAll settings.finalizerName.val (.builder id) calls).run s.heap = (result, h')) :
    step m settings s (.chain on calls) = (shownResult s.held result, { s with heap := h' }) := by
  rw [step, holding_eq, held]
  exact running_shown run

/-- After a setter a chain goes on with the other calls. -/
theorem step_chain_of_ok {n : Text} {v : Value} {rest : List (Text × Value)}
    (run : (m.send (.builder id) n [.value v]).run s.heap = (.ok (.builder id), h')) :
    step m settings s (.chain on ((n, v) :: rest)) = step m settings { s with heap := h' } (.chain on rest) := by
  have all : (m.sendAll settings.finalizerName.val (.builder id) ((n, v) :: rest)).run s.heap =
      (m.sendAll settings.finalizerName.val (.builder id) rest).run h' := by
    rw [Machine.sendAll, run_bind, run]
  have later : step m settings { s with heap := h' } (.chain on rest) = _ :=
    step_chain { s with heap := h' } held rfl
  exact (step_chain s held all).trans later.symm

/-- A chain ends with the first call that fails. -/
theorem step_chain_of_error {n : Text} {v : Value} {rest : List (Text × Value)} {fault : EvalFault}
    (run : (m.send (.builder id) n [.value v]).run s.heap = (.error fault, h')) :
    step m settings s (.chain on ((n, v) :: rest)) =
      (shownResult s.held (.error fault), { s with heap := h' }) := by
  refine step_chain s held ?_
  rw [Machine.sendAll, run_bind, run]

theorem inTurn_of_ok {n : Text} {v : Value} {rest : List (Text × Value)}
    (run : (m.send (.builder id) n [.value v]).run s.heap = (.ok (.builder id), h')) :
    inTurn m settings on s ((n, v) :: rest) = inTurn m settings on { s with heap := h' } rest := by
  have called : step m settings s (.call on n [v]) = _ := step_call s held run
  obtain ⟨name, shown, _⟩ := shown_builder (builderOf?_eq_some.mpr held)
  rw [inTurn, called, shownResult, shown]

theorem inTurn_of_error {n : Text} {v : Value} {rest : List (Text × Value)} {fault : EvalFault}
    (run : (m.send (.builder id) n [.value v]).run s.heap = (.error fault, h')) :
    inTurn m settings on s ((n, v) :: rest) = (shownResult s.held (.error fault), { s with heap := h' }) := by
  have called : step m settings s (.call on n [v]) = _ := step_call s held run
  rw [inTurn, called]
  rfl

theorem step_assign (n : Text) (v : Value) :
    step m settings s (.assign on n v) =
      running s (m.writeAttribute (.builder id) n (.value v) >>= fun _ => pure .missing)
        fun _ s => (.assigned n, s) := by
  rw [step, holding_eq, held]

end

/-- Whether a call is one of the finalizer, under its own name or under the one that the class keeps. -/
def IsFinal (b : BuilderShape) (settings : Settings) (n : Text) : Prop :=
  n = settings.finalizerName.val ∨ n = b.keptFinalizer settings

/-- What a call on a builder does: it leaves the other builders alone, and this one too if it fails or
invokes the finalizer, in which case it can be repeated; with one value it is a setter or it fails. -/
structure Sent (m : Machine) (b : BuilderShape) (settings : Settings) (before : Heap) (id : Nat) (n : Text)
    (args : List Value) (result : Except EvalFault Datum) (after : Heap) : Prop where
  others : KeepsOthers id before after
  keeps : IsFinal b settings n ∨ (∃ fault, result = .error fault) → Keeps before after
  again : IsFinal b settings n ∨ (∃ fault, result = .error fault) → ∀ h, Keeps before h →
    ∃ h', (m.send (.builder id) n (args.map .value)).run h = (result, h')
  setter : b.callable settings n = true → ∀ v, args = [v] →
    result = .ok (.builder id) ∧ after = before.modify id (Cells.put (b.keptSlot n) (.value v))
  refused : b.callable settings n = false → ∀ v, args = [v] → ∃ fault, result = .error fault

/-- A setter is not called by the name of the finalizer. -/
theorem not_final_of_callable (visible : ∀ s ∈ b.slots, Text.startsWith "__" s.field = false) {n : Text}
    (callable : b.callable settings n = true) :
    ¬ IsFinal b settings n := by
  obtain ⟨field, different⟩ := Machine.isSetter_iff.mp (Bool.and_eq_true_iff.mp callable).1
  rintro (name | kept)
  · obtain ⟨s, member, same⟩ := field
    have plain : Text.isPrivate n = false :=
      same ▸ Text.isPrivate_of_not_startsWith (visible s member)
    rw [BuilderShape.keptFinalizer, ← name, Text.mangle_of_not_private plain] at different
    exact different rfl
  · exact different kept

/-- The initializer is not called by the name of the finalizer unless it is hidden behind it. -/
theorem not_final_init (unhidden : Text.ofString "__init__" ≠ b.keptFinalizer settings) :
    ¬ IsFinal b settings "__init__" := by
  rintro (name | kept)
  · rw [BuilderShape.keptFinalizer, ← name] at unhidden
    exact unhidden (Text.mangle_of_not_private (by decide)).symm
  · exact unhidden kept

/-- What is sent changes nothing if it can be repeated with the same result. -/
theorem Sent.of_again {before after : Heap} {n : Text} {args : List Value} {result : Except EvalFault Datum}
    (keeps : Keeps before after)
    (again : ∀ h, Keeps before h → ∃ h', (m.send (.builder id) n (args.map .value)).run h = (result, h'))
    (unset : ¬ (b.callable settings n = true ∧ ∃ v, args = [v]))
    (refused : ∀ v, args = [v] → ∃ fault, result = .error fault) :
    Sent m b settings before id n args result after where
  others := keeps.keepsOthers id
  keeps _ := keeps
  again _ := again
  setter callable v one := absurd ⟨callable, v, one⟩ unset
  refused _ := refused

/-- A call that answers and is not one of the finalizer leaves nothing to be repeated. -/
theorem Sent.of_ok {before after : Heap} {n : Text} {args : List Value} {d : Datum}
    (others : KeepsOthers id before after) (plain : ¬ IsFinal b settings n)
    (setter : ∀ v, args = [v] → b.callable settings n = true ∧ d = .builder id ∧
      after = before.modify id (Cells.put (b.keptSlot n) (.value v))) :
    Sent m b settings before id n args (.ok d) after := by
  have unending : ¬ (IsFinal b settings n ∨ ∃ fault : EvalFault, Except.ok d = .error fault) := by
    rintro (final | ⟨fault, error⟩)
    · exact plain final
    · cases error
  exact {
    others := others
    keeps := fun ends => absurd ends unending
    again := fun ends => absurd ends unending
    setter := fun _ v one => ⟨congrArg _ (setter v one).2.1, (setter v one).2.2⟩
    refused := fun not v one => absurd (not.symm.trans (setter v one).1) Bool.false_ne_true }

/-- An assignment to a stored slot fills its cell, and any other fails and changes nothing. -/
theorem Tracks.assigned (tracks : Tracks m b settings s j) (held : Cells.get? s.held on = some (.builder id))
    (a : Text) (v : Value) :
    (a ∈ m.cls.stored → Session.step m settings s (.assign on a v) =
        (.assigned a, { s with heap := s.heap.modify id (Cells.put a (.value v)) })) ∧
      (a ∉ m.cls.stored → ∃ fault h', Session.step m settings s (.assign on a v) =
        (.failed fault, { s with heap := h' }) ∧ Keeps s.heap h') := by
  obtain ⟨makes, _⟩ := tracks.makes on id held
  rw [step_assign s held]
  constructor
  · intro stored
    have write := makes.sets.yields_write s.heap id (.value v) (makes.settable a stored)
    rw [Yields] at write
    rw [running, run_bind, write]
    rfl
  · intro unstored
    have fails : FailsOtherwise (m.writeAttribute (.builder id) a (.value v)) s.heap :=
      Machine.failsOtherwise_write fun can => unstored can.2.stored
    obtain ⟨fault, h', failed, _, keeps⟩ := fails
    rw [Fails] at failed
    rw [running, run_bind, failed]
    exact ⟨_, h', rfl, keeps⟩

/-- What a chain on a builder does: what its calls do one at a time. -/
structure Chained (m : Machine) (b : BuilderShape) (settings : Settings) (on : Text) (id : Nat) (s : SessionState)
    (calls : List (Text × Value)) : Prop where
  inTurn : step m settings s (.chain on calls) = inTurn m settings on s calls
  others : KeepsOthers id s.heap (step m settings s (.chain on calls)).2.heap
  writes : Keeps (filledBy b id s.heap (calls.takeWhile fun c => b.callable settings c.1))
    (step m settings s (.chain on calls)).2.heap

section

variable (setUp : m.SetUp b settings) (nonempty : b.slots ≠ [])
  (visible : ∀ s ∈ b.slots, Text.startsWith "__" s.field = false)
include setUp nonempty visible

/-- Whatever is called on a builder, the session keeps track. -/
theorem Tracks.send (tracks : Tracks m b settings s j) (held : Cells.get? s.held on = some (.builder id)) (n : Text)
    (args : List Value) :
    ∃ result h' j', (m.send (.builder id) n (args.map .value)).run s.heap = (result, h') ∧
      Tracks m b settings { s with heap := h' } j' ∧ Sent m b settings s.heap id n args result h' := by
  have filled := Machine.filled_of_follows (tracks.follows held)
  obtain ⟨makes, unhidden⟩ := tracks.makes on id held
  by_cases sets : b.callable settings n = true ∧ ∃ v, args = [v]
  · obtain ⟨callable, v, rfl⟩ := sets
    obtain ⟨setter, readable⟩ := Bool.and_eq_true_iff.mp callable
    have leaves := (setUp.leaves_iff visible).mpr readable
    refine ⟨_, _, _, setUp.yields_setter visible leaves makes setter v, tracks.write filled.inside _ v,
      .of_ok (KeepsOthers.modify filled.inside _ _) (not_final_of_callable visible callable) fun v' one => ?_⟩
    cases one
    exact ⟨callable, rfl, rfl⟩
  · rcases setUp.send_cases visible filled n args with set | ⟨rfl, rfl⟩ | ⟨leaves, rfl, rfl⟩ | fails
    · exact absurd set sets
    · obtain ⟨result, all⟩ := setUp.steady_finalizer nonempty makes filled
      obtain ⟨h', run, keeps⟩ := all s.heap (.refl _)
      refine ⟨result, h', j, run, tracks.keeps keeps,
        .of_again keeps (fun h more => ?_) sets fun _ one => by cases one⟩
      obtain ⟨h₂, again, _⟩ := all h more
      exact ⟨h₂, again⟩
    · have run := setUp.send_eq leaves (setUp.init unhidden) (by decide) id [] s.heap
      rcases setUp.run_init nonempty (m.call 99) filled.inside with ⟨h', marks, kept, _, missing⟩ | ⟨not, _⟩
      · exact ⟨_, h', _, run.trans marks, tracks.restart filled.inside kept missing,
          .of_ok kept (not_final_init unhidden) fun _ one => by cases one⟩
      · exact absurd makes not
    · obtain ⟨fault, _, all⟩ := fails
      obtain ⟨h', failed, keeps⟩ := all s.heap (.refl id s.heap)
      refine ⟨_, h', j, failed, tracks.keeps keeps,
        .of_again keeps (fun h more => ?_) sets fun _ _ => ⟨fault, rfl⟩⟩
      obtain ⟨h₂, again, _⟩ := all h (more.alike filled.inside)
      exact ⟨h₂, again⟩

theorem Tracks.chained (tracks : Tracks m b settings s j) (held : Cells.get? s.held on = some (.builder id))
    (calls : List (Text × Value)) :
    (∃ j', Tracks m b settings (Session.step m settings s (.chain on calls)).2 j') ∧
      Chained m b settings on id s calls := by
  induction calls generalizing s j with
  | nil =>
    obtain ⟨result, h', j', run, tracked, sent⟩ :=
      tracks.send setUp nonempty visible held settings.finalizerName.val []
    have chain : Session.step m settings s (.chain on []) = _ := step_chain s held run
    rw [chain]
    refine ⟨⟨j', tracked⟩, ?_, ?_, ?_⟩
    · rw [chain, Session.inTurn, step_call s held run]
    · rw [chain]
      exact sent.others
    · rw [chain]
      exact sent.keeps (Or.inl (Or.inl rfl))
  | cons c rest ih =>
    obtain ⟨n, v⟩ := c
    obtain ⟨result, h₁, j', run, tracked, sent⟩ := tracks.send setUp nonempty visible held n [v]
    cases callable : b.callable settings n with
    | true =>
      obtain ⟨rfl, rfl⟩ := sent.setter callable v rfl
      obtain ⟨more, chained⟩ := ih tracked held
      have chain : Session.step m settings s (.chain on ((n, v) :: rest)) = _ := step_chain_of_ok s held run
      rw [chain]
      refine ⟨more, ?_, ?_, ?_⟩
      · rw [chain, inTurn_of_ok s held run, chained.inTurn]
      · rw [chain]
        exact sent.others.trans chained.others
      · rw [chain, List.takeWhile_cons, callable]
        exact chained.writes
    | false =>
      obtain ⟨fault, rfl⟩ := sent.refused callable v rfl
      have chain : Session.step m settings s (.chain on ((n, v) :: rest)) = _ := step_chain_of_error s held run
      rw [chain]
      refine ⟨⟨j', tracked⟩, ?_, ?_, ?_⟩
      · rw [chain, inTurn_of_error s held run]
      · rw [chain]
        exact sent.others
      · rw [chain, List.takeWhile_cons, callable]
        exact sent.keeps (Or.inr ⟨fault, rfl⟩)

/-- Making a builder leaves all others alone. -/
theorem step_create_keeps (s : SessionState) (on : Text) :
    Keeps s.heap (step m settings s (.create on)).2.heap := by
  rcases setUp.run_create nonempty visible s.heap with
    ⟨h', made⟩ | ⟨fields, h', run, keeps⟩ | ⟨fault, h', run, keeps⟩
  · have run := made.run
    rw [Yields] at run
    rw [step, running, run]
    exact made.keeps
  · rw [Yields] at run
    rw [step, running, run]
    exact keeps
  · rw [Fails] at run
    rw [step, running, run]
    exact keeps

/-- No step on a builder reaches another one. -/
theorem Tracks.others (tracks : Tracks m b settings s j) (held : Cells.get? s.held on = some (.builder id))
    (st : Step) (same : st.on = on) :
    KeepsOthers id s.heap (Session.step m settings s st).2.heap := by
  cases st with
  | create _ => exact (step_create_keeps setUp nonempty visible s _).keepsOthers id
  | call on' n args =>
    change on' = on at same
    subst same
    obtain ⟨result, h', _, run, _, sent⟩ := tracks.send setUp nonempty visible held n args
    rw [step_call s held run]
    exact sent.others
  | chain on' calls =>
    change on' = on at same
    subst same
    exact (tracks.chained setUp nonempty visible held calls).2.others
  | assign on' a v =>
    change on' = on at same
    subst same
    by_cases stored : a ∈ m.cls.stored
    · rw [(tracks.assigned held a v).1 stored]
      exact .modify (tracks.follows held).inside a (.value v)
    · obtain ⟨fault, h', step, keeps⟩ := (tracks.assigned held a v).2 stored
      rw [step]
      exact keeps.keepsOthers id
  | describe on' =>
    change on' = on at same
    subst same
    rw [Session.step, holding_eq, held]
    exact (Keeps.refl s.heap).keepsOthers id

/-- Whatever the next step is, the session keeps track of what is held, whatever its names are. -/
theorem Tracks.next (tracks : Tracks m b settings s j) (st : Step) :
    ∃ j', Tracks m b settings (Session.step m settings s st).2 j' := by
  cases st with
  | create on => exact ⟨j, tracks.create setUp nonempty visible on⟩
  | describe on =>
    refine ⟨j, ?_⟩
    rw [Session.step, holding_eq]
    split
    · exact tracks
    · exact tracks
  | call on n args =>
    refine tracks.holding_cases (P := fun done => ∃ j', Tracks m b settings done.2 j') on _ (fun _ => ⟨j, tracks⟩)
      (fun id held => ?_) fun fields _ => ⟨j, tracks.running_fails (failsOtherwise_sendRecord fields n _ s.heap)⟩
    obtain ⟨result, h', j', run, tracked, _⟩ := tracks.send setUp nonempty visible held n args
    exact ⟨j', by rw [running_shown run]; exact tracked⟩
  | chain on calls =>
    refine tracks.holding_cases (P := fun done => ∃ j', Tracks m b settings done.2 j') on _ (fun _ => ⟨j, tracks⟩)
      (fun id held => ?_) fun fields _ => ⟨j, tracks.running_fails (failsOtherwise_sendAllRecord _ fields calls s.heap)⟩
    have tracked := (tracks.chained setUp nonempty visible held calls).1
    rw [Session.step, holding_eq, held] at tracked
    exact tracked
  | assign on a v =>
    refine tracks.holding_cases (P := fun done => ∃ j', Tracks m b settings done.2 j') on _ (fun _ => ⟨j, tracks⟩)
      (fun id held => ?_) fun fields _ => ⟨j, tracks.assign_record fields a v⟩
    obtain ⟨result, h', run, kept⟩ := tracks.assign setUp held a v
    exact ⟨_, running_assigned run (.assigned a) ▸ kept⟩

/-- Every state that sessions reach tracks what was written. -/
theorem Reached.tracks (reached : Reached m settings s) : ∃ j, Tracks m b settings s j := by
  induction reached with
  | start => exact ⟨[], .start⟩
  | step st _ ih =>
    obtain ⟨j, tracks⟩ := ih
    exact tracks.next setUp nonempty visible st

end

/-- What steps on a builder do to it and to everything else. -/
structure Isolates (m : Machine) (b : BuilderShape) (settings : Settings) (s : SessionState) (on : Text) (id : Nat) :
    Prop where
  /-- No step on a builder reaches another one. -/
  others : ∀ st : Step, st.on = on → KeepsOthers id s.heap (step m settings s st).2.heap
  /-- A setter that can be called answers its builder and fills the slot of its field, and nothing else. -/
  setter : ∀ n v, b.callable settings n = true →
    (∃ name, (step m settings s (.call on n [v])).1 = .builder name ∧ nameOf? s.held id = some name) ∧
      Fills id (b.keptSlot n) v s (step m settings s (.call on n [v])).2
  /-- The other setters fail. -/
  refused : ∀ n v, b.callable settings n = false → Failed (step m settings s (.call on n [v]))
  /-- An assignment to a stored slot fills it, and nothing else. -/
  assigned : ∀ a v, a ∈ m.cls.stored → (step m settings s (.assign on a v)).1 = .assigned a ∧
    Fills id a v s (step m settings s (.assign on a v)).2
  /-- Any other assignment fails and changes nothing. -/
  unassigned : ∀ a v, a ∉ m.cls.stored →
    Failed (step m settings s (.assign on a v)) ∧ Unchanged s (step m settings s (.assign on a v)).2
  /-- A call of the finalizer and one that fails change nothing, and repeated they answer the same. -/
  again : ∀ n args, IsFinal b settings n ∨ Failed (step m settings s (.call on n args)) →
    Unchanged s (step m settings s (.call on n args)).2 ∧
      (step m settings (step m settings s (.call on n args)).2 (.call on n args)).1 =
        (step m settings s (.call on n args)).1
  /-- A chain does what its calls do one at a time. -/
  chain : ∀ calls, step m settings s (.chain on calls) = inTurn m settings on s calls
  /-- A chain leaves the writes of the setters before the first call that fails. -/
  writes : ∀ calls, (step m settings s (.chain on calls)).2.held = s.held ∧
    Keeps (filledBy b id s.heap (calls.takeWhile fun c => b.callable settings c.1))
      (step m settings s (.chain on calls)).2.heap

theorem failed_shownResult {result : Except EvalFault Datum} {held : List (Text × Datum)} {after : SessionState}
    (failed : Failed (shownResult held result, after)) : ∃ fault, result = .error fault := by
  cases result with
  | error fault => exact ⟨fault, rfl⟩
  | ok d =>
    obtain ⟨fault, failed⟩ := failed
    change shown held d = .failed fault at failed
    cases d with
    | builder id =>
      rw [shown] at failed
      split at failed
      · cases failed
      · cases failed
    | _ => cases failed

theorem step_chain_held (held : Cells.get? s.held on = some (.builder id)) (calls : List (Text × Value)) :
    (step m settings s (.chain on calls)).2.held = s.held := by
  have chain : step m settings s (.chain on calls) = _ := step_chain s held rfl
  rw [chain]

/-- In every state a session reaches, each builder that is held is isolated. -/
theorem Reached.isolates (reached : Reached m settings s) (setUp : m.SetUp b settings) (nonempty : b.slots ≠ [])
    (visible : ∀ s ∈ b.slots, Text.startsWith "__" s.field = false) (held : builderOf? s.held on = some id) :
    Isolates m b settings s on id := by
  obtain ⟨j, tracks⟩ := reached.tracks setUp nonempty visible
  have found := builderOf?_eq_some.mp held
  have inside := (tracks.follows found).inside
  refine ⟨tracks.others setUp nonempty visible found, fun n v callable => ?_, fun n v not => ?_,
    fun a v stored => ?_, fun a v unstored => ?_, fun n args final => ?_, fun calls => ?_,
    fun calls => ⟨step_chain_held found calls, ?_⟩⟩
  · obtain ⟨result, h', _, run, _, sent⟩ := tracks.send setUp nonempty visible found n [v]
    obtain ⟨rfl, rfl⟩ := sent.setter callable v rfl
    rw [Session.step_call s found run]
    exact ⟨shown_builder held, .of_modify inside _ v⟩
  · obtain ⟨result, h', _, run, _, sent⟩ := tracks.send setUp nonempty visible found n [v]
    obtain ⟨fault, rfl⟩ := sent.refused not v rfl
    rw [Session.step_call s found run]
    exact ⟨.eval fault, rfl⟩
  · rw [(tracks.assigned found a v).1 stored]
    exact ⟨rfl, .of_modify inside a v⟩
  · obtain ⟨fault, h', step, keeps⟩ := (tracks.assigned found a v).2 unstored
    rw [step]
    exact ⟨⟨fault, rfl⟩, rfl, keeps⟩
  · obtain ⟨result, h', _, run, _, sent⟩ := tracks.send setUp nonempty visible found n args
    rw [Session.step_call s found run] at final ⊢
    have ends : IsFinal b settings n ∨ ∃ fault, result = .error fault := final.imp_right failed_shownResult
    have keeps := sent.keeps ends
    obtain ⟨h₂, more⟩ := sent.again ends h' keeps
    have next : Session.step m settings { s with heap := h' } (.call on n args) = _ :=
      Session.step_call { s with heap := h' } found more
    rw [next]
    exact ⟨⟨rfl, keeps⟩, rfl⟩
  · exact (tracks.chained setUp nonempty visible found calls).2.inTurn
  · exact (tracks.chained setUp nonempty visible found calls).2.writes

end Session

/-- In every session with a generated builder, steps on a builder change that builder only, finalizers and
failures change nothing and can be repeated, and chains are calls one at a time. -/
theorem Expansion.steps_isolated {settings : Settings} {d : Declaration} {e : Expansion} {g : Generated}
    {m : Machine} (run : Expansion.expand settings d = .ok e) (generated : e.generated = some g)
    (made : Machine.ofGenerated g settings Session.standIn = .ok m) {s : SessionState}
    (reached : Session.Reached m settings s) {on : Text} {id : Nat} (held : builderOf? s.held on = some id) :
    Session.Isolates m g.shape settings s on id := by
  obtain ⟨setUp, visible⟩ := Expansion.setUp run generated made
  exact reached.isolates setUp g.shape_nonempty visible held

/-- One of two builders is isolated from the other. -/
theorem steps_isolated_two_builders :
    ∃ e g m s, Expansion.expand .default (.ofFields "P" ["x"]) = .ok e ∧ e.generated = some g ∧
      Machine.ofGenerated g .default Session.standIn = .ok m ∧ Session.Reached m .default s ∧
      builderOf? s.held "b" = some 1 ∧ Session.Isolates m g.shape .default s "b" 1 := by
  have run : Expansion.expand .default (.ofFields "P" ["x"]) = .ok ⟨_, some _, _⟩ := rfl
  exact ⟨_, _, _, _, run, rfl, rfl, .step (.create "b") (.step (.create "a") .start), rfl,
    Expansion.steps_isolated run rfl rfl (.step (.create "b") (.step (.create "a") .start)) rfl⟩

/-- A builder that was just made refuses a value for one of its fields. -/
def Session.Refuses (settings : Settings) (d : Declaration) : Prop :=
  ∃ e g m n, Expansion.expand settings d = .ok e ∧ e.generated = some g ∧
    Machine.ofGenerated g settings Session.standIn = .ok m ∧ n ∈ g.record.names ∧
    ∃ s, Session.Reached m settings s ∧ builderOf? s.held "b" = some 0 ∧
      Session.Failed (Session.step m settings s (.call "b" n [.int 1]))

/-- A finalizer that is private to the builder hides a setter that is spelled like its kept name, and a slot
that takes the place of reading leaves no setter to be called. -/
theorem refuses_hidden_and_unreadable :
    Session.Refuses (.finalizedBy ⟨"__go", by decide⟩) (.ofFields "P" ["_PBuilder__go"]) ∧
      Session.Refuses .default (.ofFields "P" ["_getattribute__"]) := by
  constructor
  · exact ⟨_, _, _, "_PBuilder__go", rfl, rfl, rfl, by decide, _, .step (.create "b") .start, rfl, _, rfl⟩
  · exact ⟨_, _, _, "_getattribute__", rfl, rfl, rfl, by decide, _, .step (.create "b") .start, rfl, _, rfl⟩

end FluentRecords
