import FluentRecords.Proofs.Session.Isolation

/-!
Complete builders. The code that is generated uses names that it was given, that of the record among them,
beside names of its own. Where the names keep clear of each other, a builder to which nothing required is
missing answers a record; where they do not, its finalizer never does.
-/

namespace FluentRecords

/-- The name of the record means the record where a finalizer constructs it: no name that the generated code
defines itself or finds in its class hides it there. -/
structure BuilderShape.Uncaptured (b : BuilderShape) (settings : Settings) : Prop where
  kept : Text.mangle b.builder b.record = b.record
  cell : b.record ≠ Text.ofString "__class__"
  receiver : b.record ≠ Text.ofString "self"
  notes : b.record = missingList → settings.collectMissing = true → b.required = []
  support : b.record ≠ supportAlias
  factory : b.record ≠ settings.factoryName.val

/-- A finalizer can be called under its own name and reaches the record, which takes all fields. -/
structure BuilderShape.Completes (b : BuilderShape) (settings : Settings) : Prop
    extends b.Uncaptured settings where
  readable : b.readable settings = true
  named : settings.finalizerName.val = b.keptFinalizer settings
  first : Text.ofString "self" ∉ b.slots.map Slot.field

namespace Machine

variable {m : Machine} {b : BuilderShape} {settings : Settings} {receiver : Datum}

/-- What the local names of a finalizer are where it constructs the record. -/
theorem get?_finalFrame (b : BuilderShape) (settings : Settings) (receiver : Datum) (n : Text) :
    Cells.get? (finalFrame b settings receiver).locals n =
      if settings.collectMissing = true ∧ b.required ≠ [] ∧ n = missingList then some (.value (.list []))
      else if n = Text.ofString "self" then some receiver
      else none := by
  have receiverOnly : Cells.get? [(Text.ofString "self", receiver)] n =
      if n = Text.ofString "self" then some receiver else none := by
    by_cases same : n = Text.ofString "self"
    · subst same
      rfl
    · have passed : (Text.ofString "self" == n) = false := beq_eq_false_iff_ne.mpr (Ne.symm same)
      rw [if_neg same, Cells.get?, List.find?_cons, passed]
      rfl
  have noting : (settings.collectMissing && !b.required.isEmpty) = true ↔
      settings.collectMissing = true ∧ b.required ≠ [] := by
    rw [Bool.and_eq_true, Bool.not_eq_true', List.isEmpty_eq_false_iff]
  unfold finalFrame checkedLocals
  by_cases notes : settings.collectMissing = true ∧ b.required ≠ []
  · rw [if_pos (noting.mpr notes)]
    by_cases same : n = missingList
    · rw [if_pos ⟨notes.1, notes.2, same⟩]
      subst same
      rfl
    · have passed : (missingList == n) = false := beq_eq_false_iff_ne.mpr (Ne.symm same)
      rw [if_neg fun all => same all.2.2, ← receiverOnly]
      simp only [Cells.get?, List.find?_cons, passed]
  · rw [if_neg (mt noting.mp notes), if_neg fun all => notes ⟨all.1, all.2.1⟩]
    exact receiverOnly

theorem SetUp.record_meaning_iff (setUp : m.SetUp b settings) (builder : b.builder ≠ b.record)
    (other : receiver ≠ .recordClass) :
    m.meaning (finalFrame b settings receiver) (m.spelled (finalFrame b settings receiver) b.record) =
      some .recordClass ↔ b.Uncaptured settings := by
  have inClass : (finalFrame b settings receiver).inClass = true := rfl
  rw [spelled, inClass, if_pos rfl, setUp.name]
  constructor
  · intro means
    have cell : Text.mangle b.builder b.record ≠ Text.ofString "__class__" := by
      intro same
      rw [same] at means
      cases means
    rw [meaning_eq (Or.inr cell), get?_finalFrame] at means
    split at means
    · cases means
    · rename_i notes
      split at means
      · exact absurd (Option.some.inj means) other
      · rename_i self
        rw [Option.none_or, setUp.get?_globals] at means
        split at means
        · cases means
        · rename_i factory
          split at means
          · cases means
          · split at means
            · cases means
            · rename_i support
              split at means
              · rename_i kept
                rw [kept] at cell notes self factory support
                refine ⟨kept, cell, self, fun same collect => ?_, support, factory⟩
                by_contra some
                exact notes ⟨collect, some, same⟩
              · cases means
  · intro free
    rw [free.kept, meaning_eq (Or.inr free.cell), get?_finalFrame,
      if_neg fun all => all.2.1 (free.notes all.2.2 all.1), if_neg free.receiver, Option.none_or,
      setUp.get?_globals, if_neg free.factory, if_neg builder.symm, if_neg free.support, if_pos rfl]

/-- Every required slot of a builder holds a value. -/
def Complete (b : BuilderShape) (id : Nat) (h : Heap) : Prop :=
  ∀ s ∈ b.required, ∃ v, cellOf h id (b.keptSlot s.field) = some (.value v)

variable {id : Nat} {h : Heap}

theorem SetUp.missingSlots_content (setUp : m.SetUp b settings) (complete : Complete b id h) :
    missingSlots (m.content h id) b.required = [] := by
  refine List.filter_eq_nil_iff.mpr fun s member => ?_
  obtain ⟨v, holds⟩ := complete s member
  have kept : Text.mangle m.cls.name s.attribute = b.keptSlot s.field := by
    rw [setUp.name]
    rfl
  rw [content, kept, holds]
  exact Bool.false_ne_true

/-- What a finalizer is called with, be it the builder or its class, has no slot that seems to be missing. -/
theorem SetUp.finalizer_receiver (setUp : m.SetUp b settings) (leaves : m.Leaves "__getattribute__")
    (filled : m.Filled id h) (complete : Complete b id h) :
    ∃ receiver look, receiver.IsNamed ∧ receiver ≠ .recordClass ∧ m.Reads receiver look b.slots h ∧
      missingSlots look b.required = [] ∧
      (m.send (.builder id) (b.keptFinalizer settings) []).run h =
        (m.runBody (m.call 99) true (b.finalMember settings).method [receiver] []).run h := by
  by_cases hook : b.keptFinalizer settings ∈ BuilderClass.classHooks
  · exact ⟨.builderClass, _, trivial, Datum.noConfusion, setUp.reads_descriptors h,
      List.filter_eq_nil_iff.mpr fun _ _ => Bool.false_ne_true,
      setUp.send_classMethod_eq leaves setUp.finalizer hook id [] h⟩
  · exact ⟨.builder id, _, trivial, Datum.noConfusion, setUp.reads_content leaves filled (.refl id h),
      setUp.missingSlots_content complete, setUp.send_eq leaves setUp.finalizer hook id [] h⟩

/-- The finalizer of a complete builder answers a record with all fields, or it never does. -/
theorem SetUp.send_complete (setUp : m.SetUp b settings) (nonempty : b.slots ≠ [])
    (visible : ∀ s ∈ b.slots, Text.startsWith "__" s.field = false) (builder : b.builder ≠ b.record)
    (makes : m.Makes) (filled : m.Filled id h) (complete : Complete b id h) :
    (b.Completes settings → ∃ fields, fields.map Prod.fst = b.slots.map Slot.field ∧
        Yields (m.send (.builder id) settings.finalizerName.val []) h (.record fields) h) ∧
      (¬ b.Completes settings → FailsOtherwise (m.send (.builder id) settings.finalizerName.val []) h) := by
  by_cases named : settings.finalizerName.val = b.keptFinalizer settings
  · by_cases leaves : m.Leaves "__getattribute__"
    · have readable := (setUp.leaves_iff visible).mp leaves
      obtain ⟨receiver, look, datum, other, reads, none, called⟩ := setUp.finalizer_receiver leaves filled complete
      have record := setUp.record_meaning_iff builder other
      rw [← named] at called
      constructor
      · intro completes
        refine ⟨_, map_fst_arguments look b.slots, called.trans ?_⟩
        exact setUp.yields_finalizer 98 makes.support datum ⟨record.mpr completes.toUncaptured, completes.first⟩
          none reads
      · intro not
        have captured : ¬ m.Constructs b (finalFrame b settings receiver) := fun constructs =>
          not ⟨record.mp constructs.record, readable, named, constructs.first⟩
        have fails := setUp.failsAlways_finalizer 98 makes.support datum nonempty captured none
        exact (fails.failsOtherwise reads).of_run called
    · refine ⟨fun completes => absurd ((setUp.leaves_iff visible).mpr completes.readable) leaves, fun _ => ?_⟩
      exact ((failsAlways_read leaves h).failsOtherwise (.refl id h)).bind
  · refine ⟨fun completes => absurd completes.named named, fun _ => ?_⟩
    have notInit : settings.finalizerName.val ≠ Text.ofString "__init__" := by
      intro same
      rw [BuilderShape.keptFinalizer, same] at named
      exact named (Text.mangle_of_not_private (by decide)).symm
    exact (setUp.failsAlways_send visible filled (Or.inl named) (Or.inl notInit)
      (Or.inr (by decide))).failsOtherwise (.refl id h)

end Machine

namespace Session

variable {m : Machine} {b : BuilderShape} {settings : Settings} {s : SessionState} {on : Text} {id : Nat}

/-- A step answers a record with all fields. -/
def Builds (b : BuilderShape) (done : StepAnswer × SessionState) : Prop :=
  ∃ fields, done.1 = .built fields ∧ fields.map Prod.fst = b.slots.map Slot.field

theorem Reached.finalizes (reached : Reached m settings s) (setUp : m.SetUp b settings) (nonempty : b.slots ≠ [])
    (visible : ∀ s ∈ b.slots, Text.startsWith "__" s.field = false) (builder : b.builder ≠ b.record)
    (held : builderOf? s.held on = some id) (complete : Machine.Complete b id s.heap) :
    (b.Completes settings → Builds b (Session.step m settings s (.call on settings.finalizerName.val []))) ∧
      (¬ b.Completes settings → ∃ fault,
        (Session.step m settings s (.call on settings.finalizerName.val [])).1 = .failed (.eval fault) ∧ fault.IsOther) := by
  obtain ⟨j, tracks⟩ := reached.tracks setUp nonempty visible
  have found := builderOf?_eq_some.mp held
  obtain ⟨makes, _⟩ := tracks.makes on id found
  have filled := Machine.filled_of_follows (tracks.follows found)
  obtain ⟨builds, fails⟩ := setUp.send_complete nonempty visible builder makes filled complete
  constructor
  · intro completes
    obtain ⟨fields, names, record⟩ := builds completes
    have called : Session.step m settings s (.call on settings.finalizerName.val []) = _ :=
      Session.step_call s found record
    rw [called]
    exact ⟨fields, rfl, names⟩
  · intro not
    obtain ⟨fault, h', failed, other, _⟩ := fails not
    have called : Session.step m settings s (.call on settings.finalizerName.val []) = _ :=
      Session.step_call s found failed
    rw [called]
    exact ⟨fault, rfl, other⟩

/-- After setters of all required fields that hold nothing yet, the finalizer answers a record. -/
theorem Reached.inTurn_builds (reached : Reached m settings s) (setUp : m.SetUp b settings) (nonempty : b.slots ≠ [])
    (visible : ∀ s ∈ b.slots, Text.startsWith "__" s.field = false) (builder : b.builder ≠ b.record)
    (held : builderOf? s.held on = some id) (completes : b.Completes settings) {calls : List (Text × Value)}
    (setters : ∀ c ∈ calls, b.callable settings c.1 = true)
    (complete : ∀ sl ∈ b.required, sl.field ∈ calls.map Prod.fst ∨
      ∃ v, cellOf s.heap id (b.keptSlot sl.field) = some (.value v)) :
    Builds b (inTurn m settings on s calls) := by
  induction calls generalizing s with
  | nil =>
    refine (reached.finalizes setUp nonempty visible builder held fun sl member => ?_).1 completes
    exact (complete sl member).resolve_left List.not_mem_nil
  | cons c rest ih =>
    obtain ⟨n, v⟩ := c
    have isolates := reached.isolates setUp nonempty visible held
    obtain ⟨⟨name, answer, _⟩, fills⟩ := isolates.setter n v (setters (n, v) List.mem_cons_self)
    have next : inTurn m settings on s ((n, v) :: rest) =
        inTurn m settings on (Session.step m settings s (.call on n [v])).2 rest := by
      rw [inTurn]
      split
      · rename_i fault s' failed
        rw [failed] at answer
        cases answer
      · rename_i s' done
        rw [done]
    rw [next]
    refine ih (reached.step _) ?_ (fun c member => setters c (List.mem_cons_of_mem _ member)) fun sl member => ?_
    · rw [fills.held]
      exact held
    · rw [fills.cells]
      by_cases same : b.keptSlot sl.field = b.keptSlot n
      · exact Or.inr ⟨v, if_pos ⟨rfl, same⟩⟩
      · rw [if_neg fun both => same both.2]
        refine (complete sl member).imp_left fun named => ?_
        exact (List.mem_cons.mp named).resolve_left fun first => same (by rw [first])

end Session

/-- No builder is called like its record. -/
theorem Settings.builderName_ne (settings : Settings) (record : Text) : settings.builderName record ≠ record := by
  intro same
  have some := settings.builderSuffix.property
  rw [List.append_right_eq_self.mp same] at some
  cases some

/-- In every session with a generated builder, a builder whose required slots all hold values is finalized if
the names keep clear of each other, as it is after setters of all its required fields; with other names
its finalizer always fails. -/
theorem Expansion.complete_finalizes {settings : Settings} {d : Declaration} {e : Expansion} {g : Generated}
    {m : Machine} (run : Expansion.expand settings d = .ok e) (generated : e.generated = some g)
    (made : Machine.ofGenerated g settings Session.standIn = .ok m) {s : SessionState}
    (reached : Session.Reached m settings s) {on : Text} {id : Nat} (held : builderOf? s.held on = some id) :
    (g.shape.Completes settings →
      (Machine.Complete g.shape id s.heap →
        Session.Builds g.shape (Session.step m settings s (.call on settings.finalizerName.val []))) ∧
      ∀ calls : List (Text × Value), (∀ c ∈ calls, g.shape.callable settings c.1 = true) →
        (∀ sl ∈ g.shape.required, sl.field ∈ calls.map Prod.fst) →
        Session.Builds g.shape (Session.step m settings s (.chain on calls))) ∧
    (¬ g.shape.Completes settings → Machine.Complete g.shape id s.heap → ∃ fault,
      (Session.step m settings s (.call on settings.finalizerName.val [])).1 = .failed (.eval fault) ∧
        fault.IsOther) := by
  obtain ⟨setUp, visible⟩ := Expansion.setUp run generated made
  have builder : g.shape.builder ≠ g.shape.record := by
    obtain ⟨same, _⟩ := Expansion.expand_generated run generated
    have name : g.shape.builder = settings.builderName g.record.name := by
      rw [same]
      rfl
    exact name ▸ settings.builderName_ne g.record.name
  refine ⟨fun completes => ⟨fun complete => ?_, fun calls setters named => ?_⟩, fun not complete => ?_⟩
  · exact (reached.finalizes setUp g.shape_nonempty visible builder held complete).1 completes
  · rw [(reached.isolates setUp g.shape_nonempty visible held).chain calls]
    exact reached.inTurn_builds setUp g.shape_nonempty visible builder held completes setters
      fun sl member => Or.inl (named sl member)
  · exact (reached.finalizes setUp g.shape_nonempty visible builder held complete).2 not

/-- A builder of two fields is finalized by a chain that sets both. -/
theorem complete_finalizes_two_fields :
    ∃ e g m s, Expansion.expand .default (.ofFields "P" ["x", "y"]) = .ok e ∧ e.generated = some g ∧
      Machine.ofGenerated g .default Session.standIn = .ok m ∧ Session.Reached m .default s ∧
      builderOf? s.held "b" = some 0 ∧
      Session.Builds g.shape (Session.step m .default s (.chain "b" [("y", .int 2), ("x", .int 1)])) := by
  have run : Expansion.expand .default (.ofFields "P" ["x", "y"]) = .ok ⟨_, some _, _⟩ := rfl
  refine ⟨_, _, _, _, run, rfl, rfl, .step (.create "b") .start, rfl, ?_⟩
  refine ((Expansion.complete_finalizes run rfl rfl (.step (.create "b") .start) rfl).1 ?_).2 _ ?_ ?_
  · exact ⟨⟨rfl, by decide, by decide, fun same => absurd same (by decide), by decide, by decide⟩, rfl, rfl, by decide⟩
  · decide
  · decide

/-- A builder whose required slots all hold values is not finalized, for a given reason. -/
def Session.Strands (settings : Settings) (d : Declaration) (fault : EvalFault) : Prop :=
  ∃ e g m s, Expansion.expand settings d = .ok e ∧ e.generated = some g ∧
    Machine.ofGenerated g settings Session.standIn = .ok m ∧ Session.Reached m settings s ∧
    builderOf? s.held "b" = some 0 ∧ Machine.Complete g.shape 0 s.heap ∧
    (Session.step m settings s (.call "b" settings.finalizerName.val [])).1 = .failed (.eval fault)

/-- A record with a private name is not found in the class of its builder, and one called like the receiver
of methods is hidden by it. -/
theorem strands_private_and_self :
    Session.Strands .default (.ofFields "__H" ["x"]) (.undefined "_HBuilder__H") ∧
      Session.Strands .default (.ofFields "self" ["x"]) (.notCallable "selfBuilder") := by
  constructor
  · refine ⟨_, _, _, _, rfl, rfl, rfl, .step (.call "b" "x" [.int 1]) (.step (.create "b") .start), rfl, ?_, rfl⟩
    intro s member
    cases List.mem_singleton.mp member
    exact ⟨.int 1, rfl⟩
  · refine ⟨_, _, _, _, rfl, rfl, rfl, .step (.call "b" "x" [.int 1]) (.step (.create "b") .start), rfl, ?_, rfl⟩
    intro s member
    cases List.mem_singleton.mp member
    exact ⟨.int 1, rfl⟩

end FluentRecords
