import FluentRecords.Proofs.Session.Attributes
import FluentRecords.Proofs.Session.Checks

/-!
What a finalizer answers. If nothing is missing, it gives the record one argument for every slot in
order; whatever the name of the record stands for by then, the answer is the record with these
arguments or a failure that is no report of missing fields.
-/

namespace FluentRecords

namespace Machine

variable {m : Machine} {call : Caller} {f : Frame} {h : Heap} {receiver : Datum}

theorem bindArgs_keywords (label : Text) (params : List Text) {keywords : List (Text × Datum)}
    (given : keywords ≠ []) :
    ∃ fault, fault.IsOther ∧ ∀ args, bindArgs label params args keywords = .error fault := by
  obtain ⟨⟨n, d⟩, rest, rfl⟩ := List.exists_cons_of_ne_nil given
  cases known : params.elem n with
  | true => exact ⟨.unsupported, fun _ => EvalFault.noConfusion, fun args => by rw [bindArgs, known]; rfl⟩
  | false =>
    exact ⟨.unexpectedKeyword label n, fun _ => EvalFault.noConfusion, fun args => by rw [bindArgs, known]; rfl⟩

/-- No method of generated code takes keyword arguments. -/
theorem fails_runBody_keywords (inClass : Bool) (method : Method) {keywords : List (Text × Datum)}
    (given : keywords ≠ []) :
    ∃ fault, fault.IsOther ∧ ∀ args h, Fails (m.runBody call inClass method args keywords) h fault h := by
  obtain ⟨fault, other, refused⟩ := bindArgs_keywords method.label method.params given
  refine ⟨fault, other, fun args h => ?_⟩
  rw [runBody, refused]
  exact Fails.bind .throw

theorem failsAlways_runBody (inClass : Bool) (method : Method) (args : List Datum)
    {keywords : List (Text × Datum)} (given : keywords ≠ []) (kind : Heap → Prop) :
    FailsAlways (m.runBody call inClass method args keywords) kind := by
  obtain ⟨fault, other, failed⟩ := fails_runBody_keywords inClass method given
  exact ⟨fault, other, fun h _ => ⟨h, failed args h, .refl h⟩⟩

/-- Making a builder starts with an empty one. -/
theorem run_makeBuilder (args : List Datum) (keywords : List (Text × Datum)) {method : Method}
    (init : m.cls.method? "__init__" = some method) :
    (m.makeBuilder call args keywords).run h =
      ((m.runBody call true method (.builder h.length :: args) keywords >>= fun d =>
        match d with
        | .value .none => pure (.builder h.length)
        | d => throw (.initResult (m.kindName d))) : Run Datum).run (h ++ [[]]) := by
  rw [makeBuilder, init]
  rfl

theorem failsAlways_instantiate (args : List Datum) {keywords : List (Text × Datum)}
    (given : keywords ≠ []) {method : Method} (init : m.cls.method? "__init__" = some method)
    (kind : Heap → Prop) : FailsAlways (m.instantiate call args keywords) kind := by
  rw [instantiate]
  split
  · exact .throw fun _ => EvalFault.noConfusion
  · split
    · exact failsAlways_runBody true _ _ given kind
    · obtain ⟨fault, other, failed⟩ := fails_runBody_keywords true method given
      refine ⟨fault, other, fun h _ => ⟨h ++ [[]], ?_, .append h [[]]⟩⟩
      rw [Fails, run_makeBuilder args keywords init]
      exact (failed _ _).bind

/-- A record that is constructed has the keyword arguments in order. -/
theorem yields_call_record (fuel : Nat) (h : Heap) {keywords : List (Text × Datum)}
    (construct : m.construct = Session.standIn) (taken : Text.ofString "self" ∉ keywords.map Prod.fst) :
    Yields (m.call (fuel + 1) .recordClass [] keywords) h (.record keywords) h := by
  have free : ¬ (keywords.any fun k => k.1 == Text.ofString "self") = true := by
    intro any
    obtain ⟨k, member, same⟩ := List.any_eq_true.mp any
    exact taken (List.mem_map.mpr ⟨k, member, beq_iff_eq.mp same⟩)
  rw [call]
  dsimp only
  rw [construct, Session.standIn, if_neg free]
  exact .pure

/-- Calling with keyword arguments whatever else a name stands for fails, as does a record with a field
that is called like the first parameter of its constructor. -/
theorem failsAlways_call_keywords (fuel : Nat) {d : Datum} (named : d.IsNamed) {keywords : List (Text × Datum)}
    (given : keywords ≠ []) (construct : m.construct = Session.standIn) {method : Method}
    (init : m.cls.method? "__init__" = some method)
    (refused : d ≠ .recordClass ∨ Text.ofString "self" ∈ keywords.map Prod.fst) (kind : Heap → Prop) :
    FailsAlways (m.call (fuel + 1) d [] keywords) kind := by
  cases d with
  | method id n => exact named.elim
  | classMethod n => exact named.elim
  | reporter => exact named.elim
  | factory => exact failsAlways_runBody false m.factory [] given kind
  | builderClass => exact failsAlways_instantiate [] given init kind
  | recordClass =>
    obtain ⟨k, member, same⟩ := List.mem_map.mp (refused.resolve_left fun other => other rfl)
    have own : (keywords.any fun k => k.1 == Text.ofString "self") = true :=
      List.any_eq_true.mpr ⟨k, member, beq_iff_eq.mpr same⟩
    rw [call]
    dsimp only
    rw [construct, Session.standIn, if_pos own]
    exact .throw fun _ => EvalFault.noConfusion
  | _ => exact .throw fun _ => EvalFault.noConfusion

/-- What the record is given for a slot that reads as some datum. -/
def argument (look : Slot → Datum) (s : Slot) : Datum :=
  match s.kind with
  | .required => look s
  | .optional => if bothMissing (look s) .missing then .value .none else look s

section

variable {look : Slot → Datum} {s : Slot} {ss : List Slot}

theorem InMethod.yields_slotValue (frame : InMethod f receiver) (support : m.HasSupport)
    (read : Yields (m.readAttribute receiver (Text.mangle m.cls.name s.attribute)) h (look s) h) :
    Yields (m.eval call f (Emission.slotValue s)) h (argument look s) h := by
  unfold Emission.slotValue argument
  cases s.kind with
  | required => exact frame.yields_selfMember read
  | optional =>
    rw [eval]
    refine (frame.yields_isMissing call support read).bind ?_
    cases bothMissing (look s) .missing with
    | true => exact .pure
    | false => exact frame.yields_selfMember read

theorem InMethod.yields_arguments (call : Caller) (frame : InMethod f receiver) (support : m.HasSupport)
    (reads : m.Reads receiver look ss h) :
    Yields (m.evalKeywords call f (ss.map fun s => .mk (some s.field) .start (Emission.slotValue s))) h
      (ss.map fun s => (s.field, argument look s)) h := by
  induction ss with
  | nil => exact .pure
  | cons s rest ih =>
    rw [List.map_cons, evalKeywords]
    refine (frame.yields_slotValue support (reads s List.mem_cons_self)).bind ?_
    exact (ih fun s member => reads s (List.mem_cons_of_mem _ member)).bind .pure

/-- In a frame the name of the record stands for the record, and no field is called like the first
parameter of its constructor. -/
structure Constructs (m : Machine) (b : BuilderShape) (f : Frame) : Prop where
  record : m.meaning f (m.spelled f b.record) = some .recordClass
  first : Text.ofString "self" ∉ b.slots.map Slot.field

variable {b : BuilderShape}

theorem map_fst_arguments (look : Slot → Datum) (ss : List Slot) :
    (ss.map fun s => (s.field, argument look s)).map Prod.fst = ss.map Slot.field := by
  rw [List.map_map]
  rfl

/-- The construction of the record gives it one argument for each slot. -/
theorem InMethod.yields_construct (fuel : Nat) (frame : InMethod f receiver) (support : m.HasSupport)
    (reads : m.Reads receiver look b.slots h) (construct : m.construct = Session.standIn)
    (constructs : m.Constructs b f) :
    Yields (m.eval (m.call (fuel + 1)) f (Emission.construct b)) h
      (.record (b.slots.map fun s => (s.field, argument look s))) h := by
  have record := m.yields_call_record fuel h construct (map_fst_arguments look b.slots ▸ constructs.first)
  rw [Emission.construct, eval, eval, lookup_meaning, constructs.record]
  exact Yields.bind .pure (Yields.bind (Yields.pure (a := []))
    ((frame.yields_arguments (m.call (fuel + 1)) support reads).bind record))

/-- Where the name of the record stands for something else, its construction fails. -/
theorem InMethod.failsAlways_construct (fuel : Nat) (look : Slot → Datum) (frame : InMethod f receiver) (support : m.HasSupport)
    (globals : ∀ n d, Cells.get? m.globals n = some d → d.IsNamed) (nonempty : b.slots ≠ [])
    (construct : m.construct = Session.standIn) {method : Method}
    (init : m.cls.method? "__init__" = some method) (not : ¬ m.Constructs b f) :
    FailsAlways (m.eval (m.call (fuel + 1)) f (Emission.construct b)) (m.Reads receiver look b.slots) := by
  rw [Emission.construct, eval, eval, lookup_meaning]
  cases means : m.meaning f (m.spelled f b.record) with
  | none => exact (FailsAlways.throw fun _ => EvalFault.noConfusion).bind
  | some d =>
    have named := meaning_named (frame.named _) (globals _) means
    have given : (b.slots.map fun s => (s.field, argument look s)) ≠ [] :=
      fun none => nonempty (List.map_eq_nil_iff.mp none)
    have refused : d ≠ .recordClass ∨
        Text.ofString "self" ∈ (b.slots.map fun s => (s.field, argument look s)).map Prod.fst := by
      rw [map_fst_arguments]
      by_contra both
      rw [not_or, not_not] at both
      exact not ⟨both.1 ▸ means, both.2⟩
    exact FailsAlways.after (fun _ _ => .pure) (FailsAlways.after (a := []) (fun _ _ => .pure)
      (FailsAlways.after (fun _ reads => frame.yields_arguments (m.call (fuel + 1)) support reads)
        (failsAlways_call_keywords fuel named given construct init refused _)))

end

/-- The frame in which the body of a method starts. -/
theorem InMethod.initial {arguments : Locals} (named : receiver.IsNamed)
    (unhidden : Cells.get? arguments supportAlias = none)
    (others : ∀ n d, Cells.get? arguments n = some d → d.IsNamed) :
    InMethod ⟨true, (Text.ofString "self", receiver) :: arguments⟩ receiver where
  inClass := rfl
  self := rfl
  unhidden := unhidden
  named := by
    intro n d found
    by_cases same : Text.ofString "self" = n
    · subst same
      cases found
      exact named
    · have passed : (Text.ofString "self" == n) = false := beq_eq_false_iff_ne.mpr same
      rw [Cells.get?, List.find?_cons, passed] at found
      exact others n d found

/-- The frame in which the body of a method without further parameters starts. -/
theorem InMethod.alone (named : receiver.IsNamed) : InMethod ⟨true, [(Text.ofString "self", receiver)]⟩ receiver :=
  .initial named rfl fun _ _ found => by cases found

/-- A method with a wrong number of arguments is refused. -/
theorem failsAlways_runBody_arguments {method : Method} (args : List Datum)
    (wrong : args.length ≠ method.params.length) (kind : Heap → Prop) :
    FailsAlways (m.runBody call true method args []) kind := by
  have refused : ∃ fault, bindArgs method.label method.params args [] = .error fault ∧ fault.IsOther := by
    rw [bindArgs]
    split
    · exact ⟨_, rfl, fun _ => EvalFault.noConfusion⟩
    · split
      · exact ⟨_, rfl, fun _ => EvalFault.noConfusion⟩
      · rename_i fits none
        have length := congrArg List.length none
        rw [List.length_drop, List.length_nil] at length
        omega
  obtain ⟨fault, failed, other⟩ := refused
  rw [runBody, failed]
  exact (FailsAlways.throw other).bind

section

variable {b : BuilderShape} {settings : Settings} {look : Slot → Datum}

theorem Reads.required (reads : m.Reads receiver look b.slots h) : m.Reads receiver look b.required h :=
  fun s member => reads s (List.mem_of_mem_filter member)

/-- A finalizer reports the first field that is missing or all of them. -/
theorem fails_finalizer (fuel : Nat) (support : m.HasSupport) (named : receiver.IsNamed)
    (reads : m.Reads receiver look b.slots h) (found : missingSlots look b.required ≠ []) :
    Fails (m.runBody (m.call (fuel + 1)) true (b.finalMember settings).method [receiver] []) h
      (.missingFields (if settings.collectMissing then (missingSlots look b.required).map Slot.field
        else ((missingSlots look b.required).map Slot.field).take 1)) h := by
  have checked := (InMethod.alone named).fails_checks settings.collectMissing fuel
    support reads.required found
  have body : m.execAll (m.call (fuel + 1)) ⟨true, [(Text.ofString "self", receiver)]⟩
      (b.finalMember settings).method.body = _ := execAll_append _ _ _ _
  rw [run_runBody [(Text.ofString "self", receiver)] rfl, body]
  exact Fails.bind checked.bind

theorem SetUp.globals_named (setUp : m.SetUp b settings) (n : Text) (d : Datum)
    (found : Cells.get? m.globals n = some d) : d.IsNamed := by
  rw [setUp.get?_globals] at found
  split at found
  · cases found
    trivial
  · split at found
    · cases found
      trivial
    · split at found
      · cases found
        trivial
      · split at found
        · cases found
          trivial
        · cases found

/-- The frame in which a finalizer constructs the record. -/
def finalFrame (b : BuilderShape) (settings : Settings) (receiver : Datum) : Frame :=
  ⟨true, checkedLocals settings.collectMissing b.required [(Text.ofString "self", receiver)]⟩

theorem inMethod_finalFrame (b : BuilderShape) (settings : Settings) (named : receiver.IsNamed) :
    InMethod (finalFrame b settings receiver) receiver :=
  (InMethod.alone named).checked settings.collectMissing b.required

theorem run_finalizer_body (call : Caller) (b : BuilderShape) (settings : Settings) (receiver : Datum) :
    m.runBody call true (b.finalMember settings).method [receiver] [] =
      m.execAll call ⟨true, [(Text.ofString "self", receiver)]⟩
          (Emission.checks settings.collectMissing b.required ++
            [Emission.line (.returnValue (some (Emission.construct b)))]) >>= fun flow =>
        match flow with
        | .next _ => pure (.value .none)
        | .done d => pure d :=
  run_runBody [(Text.ofString "self", receiver)] rfl

/-- A finalizer to which nothing is missing answers the record with one argument for each slot. -/
theorem SetUp.yields_finalizer (setUp : m.SetUp b settings) (fuel : Nat) (support : m.HasSupport)
    (named : receiver.IsNamed) (constructs : m.Constructs b (finalFrame b settings receiver))
    (complete : missingSlots look b.required = []) (reads : m.Reads receiver look b.slots h) :
    Yields (m.runBody (m.call (fuel + 1)) true (b.finalMember settings).method [receiver] []) h
      (.record (b.slots.map fun s => (s.field, argument look s))) h := by
  have passed := (InMethod.alone named).yields_checks (m.call (fuel + 1)) settings.collectMissing support
    reads.required complete
  have record := (inMethod_finalFrame b settings named).yields_construct fuel support reads setUp.construct constructs
  rw [run_finalizer_body, execAll_append]
  exact (passed.bind (yields_execAll_single (yields_return record))).bind .pure

/-- It fails where the name of the record stands for something else. -/
theorem SetUp.failsAlways_finalizer (setUp : m.SetUp b settings) (fuel : Nat) (support : m.HasSupport)
    (named : receiver.IsNamed) (nonempty : b.slots ≠ [])
    (not : ¬ m.Constructs b (finalFrame b settings receiver)) (complete : missingSlots look b.required = []) :
    FailsAlways (m.runBody (m.call (fuel + 1)) true (b.finalMember settings).method [receiver] [])
      (m.Reads receiver look b.slots) := by
  obtain ⟨method, init⟩ := setUp.exists_init
  have fails := (inMethod_finalFrame b settings named).failsAlways_construct fuel look support
    setUp.globals_named nonempty setUp.construct init not
  have body : FailsAlways (m.execAll (m.call (fuel + 1)) (finalFrame b settings receiver)
      [Emission.line (.returnValue (some (Emission.construct b)))]) (m.Reads receiver look b.slots) := by
    rw [execAll]
    exact fails.bind.bind
  rw [run_finalizer_body, execAll_append]
  refine FailsAlways.bind (FailsAlways.after (a := .next _) (fun h reads => ?_) body)
  exact (InMethod.alone named).yields_checks (m.call (fuel + 1)) settings.collectMissing support reads.required complete

/-- Whatever its names stand for, a finalizer to which nothing is missing answers the record or fails. -/
theorem SetUp.run_finalizer (setUp : m.SetUp b settings) (fuel : Nat) (support : m.HasSupport) (named : receiver.IsNamed)
    (nonempty : b.slots ≠ [])
    (reads : m.Reads receiver look b.slots h) (complete : missingSlots look b.required = []) :
    Yields (m.runBody (m.call (fuel + 1)) true (b.finalMember settings).method [receiver] []) h
        (.record (b.slots.map fun s => (s.field, argument look s))) h ∨
      FailsOtherwise (m.runBody (m.call (fuel + 1)) true (b.finalMember settings).method [receiver] []) h := by
  by_cases constructs : m.Constructs b (finalFrame b settings receiver)
  · exact Or.inl (setUp.yields_finalizer fuel support named constructs complete reads)
  · exact Or.inr ((setUp.failsAlways_finalizer fuel support named nonempty constructs complete).failsOtherwise reads)

theorem failsOtherwise_whenever {test : Expr} {body : List Stmt} {f : Frame}
    (fails : FailsOtherwise (m.eval call f test) h) :
    FailsOtherwise (m.exec call f (Emission.whenever test body)) h := by
  rw [Emission.whenever, exec]
  exact fails.bind

theorem failsOtherwise_execAll_cons {s : Stmt} {rest : List Stmt} {f : Frame}
    (run : FailsOtherwise (m.exec call f s) h) : FailsOtherwise (m.execAll call f (s :: rest)) h := by
  rw [execAll]
  exact run.bind

theorem failsOtherwise_execAll_next {s : Stmt} {rest : List Stmt} {f : Frame} {locals : Locals}
    (first : Yields (m.exec call f s) h (.next locals) h)
    (next : FailsOtherwise (m.execAll call { f with locals := locals } rest) h) :
    FailsOtherwise (m.execAll call f (s :: rest)) h := by
  rw [execAll]
  exact first.bind_failsOtherwise next

/-- A finalizer that cannot tell whether its slots are missing fails. -/
theorem failsOtherwise_finalizer (named : receiver.IsNamed)
    (nonempty : b.slots ≠ [])
    (untold : ∀ f, InMethod f receiver → ∀ s ∈ b.slots,
      FailsOtherwise (m.eval call f (Emission.isMissing (Emission.selfMember s.attribute))) h) :
    FailsOtherwise (m.runBody call true (b.finalMember settings).method [receiver] []) h := by
  have body : m.execAll call ⟨true, [(Text.ofString "self", receiver)]⟩
      (b.finalMember settings).method.body = _ := execAll_append _ _ _ _
  have frame := InMethod.alone named
  rw [run_runBody [(Text.ofString "self", receiver)] rfl, body]
  refine FailsOtherwise.bind ?_
  by_cases none : b.required = []
  · -- Nothing is checked, but the first argument for the record depends on whether its slot is missing.
    obtain ⟨s, others, slots⟩ := List.exists_cons_of_ne_nil nonempty
    have member : s ∈ b.slots := slots ▸ List.mem_cons_self
    have optional : s.kind = .optional := by
      cases kind : s.kind with
      | optional => rfl
      | required => exact absurd (decide_eq_true kind) (List.filter_eq_nil_iff.mp none s member)
    have value : FailsOtherwise (m.eval call ⟨true, [(Text.ofString "self", receiver)]⟩ (Emission.slotValue s)) h := by
      rw [Emission.slotValue, optional, eval]
      exact (untold _ frame s member).bind
    have arguments : FailsOtherwise (m.evalKeywords call ⟨true, [(Text.ofString "self", receiver)]⟩
        (b.slots.map fun s => .mk (some s.field) .start (Emission.slotValue s))) h := by
      rw [slots, List.map_cons, evalKeywords]
      exact value.bind
    rw [Emission.checks_now (Or.inr none), none]
    refine Yields.bind_failsOtherwise .pure (FailsOtherwise.bind (FailsOtherwise.bind ?_))
    rw [Emission.construct, eval, eval, lookup_meaning]
    cases m.meaning _ _ with
    | none => exact (FailsOtherwise.throw fun _ => EvalFault.noConfusion).bind
    | some d =>
      exact Yields.bind_failsOtherwise .pure (Yields.bind_failsOtherwise (Yields.pure (a := [])) arguments.bind)
  · obtain ⟨s, others, slots⟩ := List.exists_cons_of_ne_nil none
    have member : s ∈ b.slots := List.mem_of_mem_filter (slots ▸ List.mem_cons_self : s ∈ b.required)
    refine FailsOtherwise.bind ?_
    cases collect : settings.collectMissing with
    | false =>
      rw [Emission.checks_now (Or.inl rfl), slots]
      exact failsOtherwise_execAll_cons (failsOtherwise_whenever (untold _ frame s member))
    | true =>
      rw [Emission.checks_collecting none, slots]
      refine failsOtherwise_execAll_next yields_noNotes (failsOtherwise_execAll_cons ?_)
      exact failsOtherwise_whenever (untold _ (frame.note []).toInMethod s member)

end

end Machine

end FluentRecords
