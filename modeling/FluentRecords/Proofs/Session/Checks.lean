import FluentRecords.Proofs.Session.Evaluation

/-!
The checks of a finalizer. Whatever its receiver is, each required slot is looked at in order; the checks
that report at once stop at the first slot that is missing, the others take note of all of them and
report afterwards. Both go on if nothing is missing, and neither changes a builder.
-/

namespace FluentRecords

/-- The checks that take note of fields, with the report that follows them. -/
theorem Emission.checks_collecting {required : List Slot} (some : required ≠ []) :
    Emission.checks true required =
      Emission.line (.assign [.name missingList] (.list [])) :: (required.map Emission.checkLater ++
        [Emission.whenever (.name missingList) [Emission.raiseMissing (.starred (.name missingList))]]) := by
  rw [Emission.checks, Bool.true_and, List.isEmpty_eq_false_iff.mpr some]
  rfl

theorem Emission.checks_now {collect : Bool} {required : List Slot} (now : collect = false ∨ required = []) :
    Emission.checks collect required = required.map Emission.checkNow := by
  rcases now with rfl | rfl
  · rfl
  · rw [Emission.checks, List.isEmpty_nil, Bool.not_true, Bool.and_false]
    rfl

namespace Machine

variable {m : Machine} {call : Caller} {f : Frame} {h h' : Heap} {receiver : Datum}

/-- Statements after others are executed with what those leave, unless they end the call. -/
theorem execAll_append (call : Caller) (f : Frame) (ss ts : List Stmt) :
    m.execAll call f (ss ++ ts) = m.execAll call f ss >>= fun flow =>
      match flow with
      | .next locals => m.execAll call { f with locals := locals } ts
      | .done d => pure (.done d) := by
  induction ss generalizing f with
  | nil =>
    rw [execAll_nil, pure_bind]
    rfl
  | cons s rest ih =>
    rw [List.cons_append, execAll_cons, execAll_cons, bind_assoc]
    congr 1
    funext flow
    cases flow with
    | next locals => exact ih { f with locals := locals }
    | done d => rw [pure_bind]

theorem yields_execAll_single {s : Stmt} {flow : Flow} (run : Yields (m.exec call f s) h flow h') :
    Yields (m.execAll call f [s]) h flow h' := by
  rw [execAll_cons]
  refine run.bind ?_
  cases flow with
  | next locals => exact .pure
  | done d => exact .pure

theorem fails_execAll_cons {s : Stmt} {rest : List Stmt} {fault : EvalFault}
    (run : Fails (m.exec call f s) h fault h') : Fails (m.execAll call f (s :: rest)) h fault h' := by
  rw [execAll_cons]
  exact run.bind

theorem yields_execAll_cons {s : Stmt} {rest : List Stmt} {locals : Locals} {flow : Flow} {h'' : Heap}
    (first : Yields (m.exec call f s) h (.next locals) h')
    (next : Yields (m.execAll call { f with locals := locals } rest) h' flow h'') :
    Yields (m.execAll call f (s :: rest)) h flow h'' := by
  rw [execAll_cons]
  exact first.bind next

theorem fails_execAll_next {s : Stmt} {rest : List Stmt} {locals : Locals} {fault : EvalFault} {h'' : Heap}
    (first : Yields (m.exec call f s) h (.next locals) h')
    (next : Fails (m.execAll call { f with locals := locals } rest) h' fault h'') :
    Fails (m.execAll call f (s :: rest)) h fault h'' := by
  rw [execAll_cons]
  exact first.bind_fails next

theorem yields_return {e : Expr} {d : Datum} (value : Yields (m.eval call f e) h d h') :
    Yields (m.exec call f (Emission.line (.returnValue (some e)))) h (.done d) h' :=
  value.bind .pure

theorem evalArgs_texts (t : Text) : Yields (m.evalArgs call f [Emission.str t]) h [.value (.str t)] h := by
  exact .pure

/-- A report ends the call with the names it was given. -/
theorem InMethod.fails_raise {fuel : Nat} {names : Expr} {ts : List Text} (frame : InMethod f receiver)
    (support : m.HasSupport)
    (args : Yields (m.evalArgs (m.call (fuel + 1)) f [names]) h (ts.map fun t => .value (.str t)) h) :
    Fails (m.exec (m.call (fuel + 1)) f (Emission.raiseMissing names)) h (.missingFields ts) h := by
  have given : namesOf (ts.map fun t => .value (.str t)) = ts := by
    rw [namesOf, List.filterMap_map]
    exact List.filterMap_some
  have report : Yields (m.eval (m.call (fuel + 1)) f
      (.call (Emission.support "MissingFieldError") [names] [])) h (.report ts) h := by
    rw [eval]
    refine (frame.yields_reporter support).bind (args.bind ?_)
    refine Yields.bind (Yields.pure (a := [])) ?_
    change Yields (pure (Datum.report (namesOf _))) h _ h
    rw [given]
    exact .pure
  rw [Emission.raiseMissing, Emission.line, exec, execSimple]
  exact report.bind_fails .throw

/-- The slots among some that read as missing. -/
def missingSlots (look : Slot → Datum) (ss : List Slot) : List Slot :=
  ss.filter fun s => bothMissing (look s) .missing

theorem missingSlots_cons (look : Slot → Datum) (s : Slot) (rest : List Slot) :
    missingSlots look (s :: rest) =
      if bothMissing (look s) .missing = true then s :: missingSlots look rest else missingSlots look rest :=
  List.filter_cons

/-- Every slot among some is read from a receiver. -/
def Reads (m : Machine) (receiver : Datum) (look : Slot → Datum) (ss : List Slot) (h : Heap) : Prop :=
  ∀ s ∈ ss, Yields (m.readAttribute receiver (Text.mangle m.cls.name s.attribute)) h (look s) h

section

variable {look : Slot → Datum} {s : Slot} {ss : List Slot}

theorem InMethod.yields_whenever_set {body : List Stmt} (frame : InMethod f receiver) (support : m.HasSupport)
    (read : Yields (m.readAttribute receiver (Text.mangle m.cls.name s.attribute)) h (look s) h)
    (set : bothMissing (look s) .missing = false) :
    Yields (m.exec call f (Emission.whenever (Emission.isMissing (Emission.selfMember s.attribute)) body)) h
      (.next f.locals) h := by
  rw [Emission.whenever, exec]
  refine (frame.yields_isMissing call support read).bind ?_
  rw [set]
  exact .pure

theorem InMethod.run_whenever_missing {body : List Stmt} (frame : InMethod f receiver)
    (support : m.HasSupport)
    (read : Yields (m.readAttribute receiver (Text.mangle m.cls.name s.attribute)) h (look s) h)
    (unset : bothMissing (look s) .missing = true) :
    (m.exec call f
        (Emission.whenever (Emission.isMissing (Emission.selfMember s.attribute)) body)).run h =
      (m.execAll call f body).run h := by
  have test := frame.yields_isMissing call support read
  rw [Yields] at test
  rw [Emission.whenever, exec, run_bind, test, unset]
  rfl

/-- Checks pass if nothing is missing, whatever they would do otherwise. -/
theorem InMethod.yields_passed (call : Caller) (body : Slot → List Stmt) (frame : InMethod f receiver)
    (support : m.HasSupport) (reads : m.Reads receiver look ss h) (complete : missingSlots look ss = []) :
    Yields (m.execAll call f (ss.map fun s =>
      Emission.whenever (Emission.isMissing (Emission.selfMember s.attribute)) (body s))) h (.next f.locals) h := by
  induction ss with
  | nil => exact .pure
  | cons s rest ih =>
    have all := List.filter_eq_nil_iff.mp complete
    have set := Bool.eq_false_iff.mpr (all s List.mem_cons_self)
    refine yields_execAll_cons (frame.yields_whenever_set support (reads s List.mem_cons_self) set) ?_
    exact ih (fun s member => reads s (List.mem_cons_of_mem _ member))
      (List.filter_eq_nil_iff.mpr fun s member => all s (List.mem_cons_of_mem _ member))

/-- The checks that report at once report the first slot that is missing. -/
theorem InMethod.fails_checksNow {fuel : Nat} {first : Slot} {others : List Slot} (frame : InMethod f receiver)
    (support : m.HasSupport) (reads : m.Reads receiver look ss h)
    (found : missingSlots look ss = first :: others) :
    Fails (m.execAll (m.call (fuel + 1)) f (ss.map Emission.checkNow)) h (.missingFields [first.field]) h := by
  induction ss with
  | nil => cases found
  | cons s rest ih =>
    rw [List.map_cons]
    cases unset : bothMissing (look s) .missing with
    | true =>
      rw [missingSlots_cons, unset, if_pos rfl] at found
      cases found
      refine fails_execAll_cons ?_
      rw [Emission.checkNow, Fails, frame.run_whenever_missing support (reads first List.mem_cons_self) unset]
      exact fails_execAll_cons (frame.fails_raise support  (evalArgs_texts first.field))
    | false =>
      rw [missingSlots_cons, unset, if_neg Bool.false_ne_true] at found
      refine fails_execAll_next
        (frame.yields_whenever_set support (reads s List.mem_cons_self) unset) ?_
      exact ih (fun s member => reads s (List.mem_cons_of_mem _ member)) found

/-- A frame in which a list of fields is noted as missing. -/
structure Notes (f : Frame) (receiver : Datum) (ts : List Text) : Prop extends InMethod f receiver where
  noted : Cells.get? f.locals missingList = some (.value (.list (ts.map .str)))

theorem InMethod.note (frame : InMethod f receiver) (ts : List Text) :
    Notes { f with locals := (missingList, .value (.list (ts.map .str))) :: f.locals } receiver ts := by
  have skip : ∀ n, n ≠ missingList → ∀ d, Cells.get? ((missingList, d) :: f.locals) n = Cells.get? f.locals n := by
    intro n other d
    have passed : (missingList == n) = false := beq_eq_false_iff_ne.mpr (Ne.symm other)
    simp only [Cells.get?, List.find?_cons, passed]
  have first : ∀ d, Cells.get? ((missingList, d) :: f.locals) missingList = some d := by
    intro d
    simp only [Cells.get?, List.find?_cons, beq_self_eq_true, Option.map_some]
  exact {
    inClass := frame.inClass
    self := (skip _ (by decide) _).trans frame.self
    unhidden := (skip _ (by decide) _).trans frame.unhidden
    named := by
      intro n d found
      by_cases same : n = missingList
      · subst same
        rw [Option.some.inj (found.symm.trans (first _))]
        trivial
      · exact frame.named n d ((skip n same _).symm.trans found)
    noted := first _ }

/-- A check that takes note of a slot adds the name of its field. -/
theorem Notes.yields_checkLater_missing (call : Caller) {ts : List Text} (frame : Notes f receiver ts)
    (support : m.HasSupport)
    (read : Yields (m.readAttribute receiver (Text.mangle m.cls.name s.attribute)) h (look s) h)
    (unset : bothMissing (look s) .missing = true) :
    ∃ locals, Yields (m.exec call f (Emission.checkLater s)) h (.next locals) h ∧
      Notes { f with locals := locals } receiver (ts ++ [s.field]) := by
  refine ⟨_, ?_, frame.toInMethod.note (ts ++ [s.field])⟩
  rw [Emission.checkLater, Yields, frame.run_whenever_missing support read unset]
  refine yields_execAll_single ?_
  rw [Emission.line, exec, execSimple, spelled_of_not_private (by decide), lookup_eq (Or.inr (by decide)), frame.noted,
    List.map_append]
  exact .pure

/-- The checks that take note add the names of all fields that are missing. -/
theorem Notes.yields_checksLater (call : Caller) {ts : List Text} (frame : Notes f receiver ts)
    (support : m.HasSupport) (reads : m.Reads receiver look ss h) :
    ∃ locals, Yields (m.execAll call f (ss.map Emission.checkLater)) h (.next locals) h ∧
      Notes { f with locals := locals } receiver (ts ++ (missingSlots look ss).map Slot.field) := by
  induction ss generalizing f ts with
  | nil =>
    refine ⟨f.locals, .pure, ?_⟩
    rw [missingSlots, List.filter_nil, List.map_nil, List.append_nil]
    exact frame
  | cons s rest ih =>
    have here := reads s List.mem_cons_self
    have later : m.Reads receiver look rest h := fun s member => reads s (List.mem_cons_of_mem _ member)
    rw [missingSlots_cons, List.map_cons]
    cases unset : bothMissing (look s) .missing with
    | true =>
      obtain ⟨locals, checked, noted⟩ := frame.yields_checkLater_missing call support here unset
      obtain ⟨final, more, all⟩ := ih noted later
      rw [List.append_assoc] at all
      exact ⟨final, yields_execAll_cons checked more, all⟩
    | false =>
      obtain ⟨final, more, all⟩ := ih frame later
      exact ⟨final, yields_execAll_cons (frame.yields_whenever_set support here unset) more, all⟩

end

theorem Notes.yields_list {ts : List Text} (frame : Notes f receiver ts) :
    Yields (m.eval call f (.name missingList)) h (.value (.list (ts.map .str))) h := by
  rw [eval, spelled_of_not_private (by decide), lookup_eq (Or.inr (by decide)), frame.noted]
  exact .pure

theorem Notes.yields_report_nothing {body : List Stmt} (frame : Notes f receiver []) :
    Yields (m.exec call f (Emission.whenever (.name missingList) body)) h (.next f.locals) h := by
  rw [Emission.whenever, exec]
  exact frame.yields_list.bind .pure

theorem Notes.fails_report {fuel : Nat} {ts : List Text} (frame : Notes f receiver ts) (support : m.HasSupport)
    (some : ts ≠ []) :
    Fails (m.exec (m.call (fuel + 1)) f
      (Emission.whenever (.name missingList) [Emission.raiseMissing (.starred (.name missingList))])) h
        (.missingFields ts) h := by
  have holds : truth (.value (.list (ts.map .str))) = true := by
    cases ts with
    | nil => exact absurd rfl some
    | cons t rest => rfl
  have args : Yields (m.evalArgs (m.call (fuel + 1)) f [.starred (.name missingList)]) h
      (ts.map fun t => .value (.str t)) h := by
    have listed : (ts.map fun t => Datum.value (.str t)) = (ts.map Value.str).map .value ++ [] := by
      rw [List.append_nil, List.map_map]
      rfl
    rw [evalArgs, listed]
    exact frame.yields_list.bind (Yields.bind (Yields.pure (a := [])) .pure)
  rw [Emission.whenever, exec]
  refine frame.yields_list.bind_fails ?_
  rw [holds, if_pos rfl]
  exact fails_execAll_cons (frame.fails_raise support args)

/-- A finalizer that takes note of missing fields starts with none. -/
theorem yields_noNotes :
    Yields (m.exec call f (Emission.line (.assign [.name missingList] (.list [])))) h
      (.next ((missingList, .value (.list [])) :: f.locals)) h := by
  rw [Emission.line, exec, execSimple, spelled_of_not_private (by decide)]
  exact .pure

/-- The local names after checks that passed: checks that take note of fields leave an empty list. -/
def checkedLocals (collect : Bool) (required : List Slot) (locals : Locals) : Locals :=
  if collect && !required.isEmpty then (missingList, .value (.list [])) :: locals else locals

/-- Whatever the receiver is, the checks pass if nothing is missing. -/
theorem InMethod.yields_checks (call : Caller) (collect : Bool) {look : Slot → Datum} {required : List Slot}
    (frame : InMethod f receiver) (support : m.HasSupport) (reads : m.Reads receiver look required h)
    (complete : missingSlots look required = []) :
    Yields (m.execAll call f (Emission.checks collect required)) h
      (.next (checkedLocals collect required f.locals)) h := by
  by_cases now : collect = false ∨ required = []
  · have same : checkedLocals collect required f.locals = f.locals := by
      rcases now with rfl | rfl
      · rfl
      · rw [checkedLocals, List.isEmpty_nil, Bool.not_true, Bool.and_false, if_neg Bool.false_ne_true]
    rw [Emission.checks_now now, same]
    exact frame.yields_passed call _ support reads complete
  · rw [not_or, Bool.not_eq_false] at now
    obtain ⟨rfl, some⟩ := now
    have noted := frame.note []
    rw [Emission.checks_collecting some, checkedLocals, List.isEmpty_eq_false_iff.mpr some]
    refine yields_execAll_cons yields_noNotes ?_
    rw [execAll_append]
    exact (noted.yields_passed call _ support reads complete).bind
      (yields_execAll_single noted.yields_report_nothing)

/-- Checks that passed leave the frame that of a method. -/
theorem InMethod.checked (collect : Bool) (required : List Slot) (frame : InMethod f receiver) :
    InMethod { f with locals := checkedLocals collect required f.locals } receiver := by
  unfold checkedLocals
  split
  · exact (frame.note []).toInMethod
  · exact frame

/-- If something is missing, the checks report the first such field or all of them. -/
theorem InMethod.fails_checks (collect : Bool) (fuel : Nat) {look : Slot → Datum} {required : List Slot}
    (frame : InMethod f receiver) (support : m.HasSupport) (reads : m.Reads receiver look required h)
    (some : missingSlots look required ≠ []) :
    Fails (m.execAll (m.call (fuel + 1)) f (Emission.checks collect required)) h
      (.missingFields (if collect then (missingSlots look required).map Slot.field
        else ((missingSlots look required).map Slot.field).take 1)) h := by
  have any : required ≠ [] := by
    rintro rfl
    exact some rfl
  cases collect with
  | false =>
    obtain ⟨first, others, found⟩ := List.exists_cons_of_ne_nil some
    rw [Emission.checks_now (Or.inl rfl), found]
    exact frame.fails_checksNow support reads found
  | true =>
    obtain ⟨locals, checked, noted⟩ :=
      (frame.note []).yields_checksLater (m.call (fuel + 1)) support reads
    rw [Emission.checks_collecting any]
    refine fails_execAll_next yields_noNotes ?_
    rw [execAll_append]
    refine checked.bind_fails (fails_execAll_cons (noted.fails_report support ?_))
    exact fun none => some (List.map_eq_nil_iff.mp none)

end Machine

end FluentRecords
