import FluentRecords.Proofs.Loading.Evaluation

/-!
Execution, step by step. A statement does to the names of the module what is written in it, and a class or a function
does what it says about names that it takes from the module.
-/

namespace FluentRecords

theorem namingsOfDefaults_append (ps rest : List Param) :
    namingsOfDefaults (ps ++ rest) = namingsOfDefaults ps ++ namingsOfDefaults rest := by
  induction ps with
  | nil => rfl
  | cons p more ih =>
    cases p with
    | mk n a dflt => rw [List.cons_append, namingsOfDefaults, namingsOfDefaults, ih, List.append_assoc]

theorem Params.namings_eq (ps : Params) : ps.namings = namingsOfDefaults (Loading.optionalParams ps) := by
  cases ps with
  | mk positional regular rest keyword keywordRest =>
    rw [Params.namings, Loading.optionalParams, namingsOfDefaults_append, namingsOfDefaults_append]

theorem targetNamingsIn_eq_flatMap (es : List Expr) : targetNamingsIn es = es.flatMap Expr.targetNamings := by
  induction es with
  | nil => rfl
  | cons e rest ih => rw [targetNamingsIn, ih, List.flatMap_cons]

theorem deletionNamingsIn_eq_flatMap (es : List Expr) : deletionNamingsIn es = es.flatMap Expr.deletionNamings := by
  induction es with
  | nil => rfl
  | cons e rest ih => rw [deletionNamingsIn, ih, List.flatMap_cons]

variable {own : List Naming} {w₀ w : World} {ss rest : List Stmt}

theorem announced_append : Announced own (ss ++ rest) ↔ Announced own ss ∧ Announced own rest :=
  List.forall_mem_append

theorem announced_try {place : Pos} {grouped : Bool} {body orelse final : List Stmt} {hs : List Handler}
    (announced : Announced own (.tryBlock place grouped body hs orelse final ::
      (Stmt.tryBlock place grouped body hs orelse final).within)) :
    Announced own (stmtsWithin body) ∧ Announced own (handlersWithin hs) ∧ Announced own (stmtsWithin orelse) ∧
      Announced own (stmtsWithin final) := by
  have inner : Announced own (stmtsWithin body ++ handlersWithin hs ++ stmtsWithin orelse ++ stmtsWithin final) :=
    (List.forall_mem_cons.mp announced).2
  simpa only [announced_append, and_assoc] using inner

/-- A body does to names that it takes from the module what is said about it. -/
theorem mem_of_outwardNamings {body : List Stmt} (outward : ∀ x ∈ outwardNamings body, x ∈ own) :
    ∀ x ∈ namingsAmong body, (globalsAmong body).elem x.name = true → x ∈ own :=
  fun x member outer => outward x (List.mem_filter.mpr ⟨member, outer⟩)

theorem World.Runs.addFrame (runs : World.Runs own w₀ w) (f : NameFrame) :
    World.Runs own w₀ { w with frames := w.frames ++ [f] } := by
  have framed : w.frames ++ [f] ≠ [] := List.append_ne_nil_of_left_ne_nil runs.framed _
  have same : ({ w with frames := w.frames ++ [f] } : World).globals = w.globals := by
    cases frames : w.frames with
    | nil => exact absurd frames runs.framed
    | cons g more =>
      rw [globals, globals, frames]
      rfl
  exact runs.step (.elsewhere framed same rfl (List.prefix_refl _)) rfl

namespace Loading

open Load

variable {sc : Scope}

/-- A new frame is not that of the module. -/
theorem runs_newFrame_bind {β : Type} {k : Nat → Load β} (names : List (Text × Thing))
    (next : ∀ frame, frame ≠ 0 → Keeps (World.Runs own w₀) (k frame)) :
    Keeps (World.Runs own w₀) (newFrame names >>= k) := by
  intro w runs
  have inner : w.frames.length ≠ 0 := fun none => runs.framed (List.length_eq_zero_iff.mp none)
  exact next w.frames.length inner _ (runs.addFrame _)

/-- In a frame of its own, a block does to names of the module what it says about names that it takes from there. -/
theorem knows_inner {xs : List Naming} (inner : sc.frame ≠ 0)
    (outward : ∀ x ∈ xs, sc.globals.elem x.name = true → x ∈ own) : sc.Knows own xs := by
  intro x member home
  unfold Scope.home at home
  split at home
  · rename_i taken
    exact outward x member taken
  · exact absurd home inner

theorem knows_flatMap {α : Type} {f : α → List Naming} {a : α} {as : List α} (knows : sc.Knows own (as.flatMap f))
    (member : a ∈ as) : sc.Knows own (f a) :=
  fun _ inside => knows _ (List.mem_flatMap.mpr ⟨a, member, inside⟩)

theorem runs_declare (d : Declared) : Keeps (World.Runs own w₀) (declare sc d) :=
  .modify fun _ runs => runs.modifyFrame fun _ _ => rfl

theorem runs_delete : ∀ e : Expr, sc.Knows own e.deletionNamings → Keeps (World.Runs own w₀) (delete sc e) := by
  intro e knows
  cases e with
  | name n =>
    refine .get_bind fun w runs => ?_
    split
    · exact .fail _
    · exact .set (runs.unbind knows)
  | _ => exact .pure _

/-- The name of a handled fault is freed after the handler. -/
theorem runs_handled {next run : Load Flow} (fits : Bool) (fault : Thing) (name : Option Text) :
    Keeps (World.Runs own w₀) next → Keeps (World.Runs own w₀) run →
    sc.Knows own ((name.map fun n => [.bind n, .free n]).getD []) →
    Keeps (World.Runs own w₀) (if !fits then next
      else match name with
        | none => run
        | some n => do
          define sc n fault
          let flow ← run
          delete sc (.name n)
          pure flow) := by
  intro passed handled knows
  split
  · exact passed
  · cases name with
    | none => exact handled
    | some n =>
      obtain ⟨bound, freed⟩ := knows_cons.mp knows
      refine .bind (runs_define bound fault) fun _ => .bind handled fun flow => ?_
      exact .bind (runs_delete (.name n) freed) fun _ => .pure _

theorem keeps_shares {I : World → Prop} (t : Thing) (targets : List Expr) : Keeps I (shares t targets) := by
  unfold shares
  split
  · exact .pure _
  · split
    · split
      · exact .raise _ _
      · split
        · exact .raise _ _
        · exact .pure _
    · dsimp only
      split
      · exact .raise _ _
      · exact .pure _

/-- What is tried keeps what its parts keep, however it ends. -/
theorem keeps_attempt {I : World → Prop} {tried orelse : Load Flow} {handle : LoadFault → Load Flow}
    (first : Keeps I tried) (after : Keeps I orelse) (handled : ∀ f, Keeps I (handle f)) :
    Keeps I (tryCatch (Except.ok <$> tryCatch (do
      match ← tried with
      | .next => orelse
      | .returned r => pure (.returned r)) handle) fun f => pure (Except.error f)) := by
  refine .tryCatch (.map _ (.tryCatch (.bind first fun flow => ?_) handled)) fun f => .pure _
  split
  · exact after
  · exact .pure _

variable {call : Caller} (calls : ∀ f args keywords, Keeps (World.Runs own w₀) (call f args keywords))

set_option linter.unusedSectionVars false

include calls

theorem runs_defaultsOf (ps : List Param) (knows : sc.Knows own (namingsOfDefaults ps)) :
    Keeps (World.Runs own w₀) (defaultsOf call sc ps) := by
  induction ps with
  | nil => exact .pure _
  | cons p more ih =>
    cases p with
    | mk n a dflt =>
      rw [namingsOfDefaults, knows_append] at knows
      cases dflt with
      | none => exact ih knows.2
      | some e => exact .bind (runs_eval calls e knows.1) fun _ => .bind (ih knows.2) fun _ => .pure _

theorem runs_decoratorsOf (ds : List Decorator) (knows : sc.Knows own (namingsIn (ds.map Decorator.expr))) :
    Keeps (World.Runs own w₀) (decoratorsOf call sc ds) := by
  induction ds with
  | nil => exact .pure _
  | cons d more ih =>
    rw [List.map_cons, namingsIn, knows_append] at knows
    exact .bind (runs_eval calls d.expr knows.1) fun _ => .bind (ih knows.2) fun _ => .pure _

theorem runs_decorate (t : Thing) (decorators : List Thing) : Keeps (World.Runs own w₀) (decorate call t decorators) :=
  .foldlM (fun t d _ => calls d [t] []) t

theorem runs_decorated {n : Text} (bound : sc.Knows own [.bind n]) (t : Thing) (decorators : List Thing) :
    Keeps (World.Runs own w₀) (do
      let t ← decorate call t decorators
      define sc n t
      pure Flow.next) :=
  .bind (runs_decorate calls t decorators) fun t => .bind (runs_define bound t) fun _ => .pure _

/-- A class whose block has run is completed by the names of the block before it is decorated. -/
theorem runs_completed {n : Text} (bound : sc.Knows own [.bind n]) (bs decorators : List Thing) (owner : Nat)
    (f : NameFrame) : Keeps (World.Runs own w₀) (do
      let style ← if bs.any Thing.isNamedTuple then
          FieldStyle.tuple <$> NamedTuple.fields f.names f.declared
        else pure .none
      modify (·.completeClass owner f style)
      let t ← decorate call (.cls owner) decorators
      define sc n t
      pure Flow.next) := by
  have next : ∀ style, Keeps (World.Runs own w₀) (do
      modify (·.completeClass owner f style)
      let t ← decorate call (.cls owner) decorators
      define sc n t
      pure Flow.next) := fun style =>
    .bind (.modify fun _ runs => runs.modifyClass fun _ => rfl) fun _ => runs_decorated calls bound _ decorators
  dsimp only
  split
  · exact .bind (.map _ (keeps_tupleFields _ _)) next
  · exact .bind (.pure _) next

mutual

theorem runs_assign (t : Thing) (e : Expr) (knows : sc.Knows own e.targetNamings) :
    Keeps (World.Runs own w₀) (assign call sc t e) := by
  cases e with
  | name n =>
    rw [assign]
    exact runs_define knows t
  | member e a =>
    rw [assign]
    exact .bind (runs_eval calls e knows) fun o => runs_setAttribute o a t
  | subscript e i =>
    rw [Expr.targetNamings, Expr.namings, knows_append] at knows
    · rw [assign]
      exact .bind (runs_eval calls e knows.1) fun _ => .bind (runs_eval calls i knows.2) fun _ => .pure _
    all_goals (intros; contradiction)
  | starred e =>
    rw [assign]
    exact runs_assign t e knows
  | tuple es =>
    rw [assign]
    exact .bind (keeps_shares t es) fun ts => runs_assignAll ts es knows
  | list es =>
    rw [assign]
    exact .bind (keeps_shares t es) fun ts => runs_assignAll ts es knows
  | _ => exact .fail _

theorem runs_assignAll (ts : List Thing) (es : List Expr) (knows : sc.Knows own (targetNamingsIn es)) :
    Keeps (World.Runs own w₀) (assignAll call sc ts es) := by
  cases es with
  | nil =>
    rw [assignAll]
    exact .pure _
  | cons e rest =>
    rw [targetNamingsIn, knows_append] at knows
    rw [assignAll]
    exact .bind (runs_assign _ e knows.1) fun _ => runs_assignAll _ rest knows.2

end

theorem runs_annotationMarker (type : Expr) (knows : sc.Knows own type.namings) :
    Keeps (World.Runs own w₀) (annotationMarker call sc type) := by
  refine .get_bind fun w _ => ?_
  split
  · exact .pure _
  · refine .bind (runs_eval calls type knows) fun t => ?_
    split
    · split
      · exact .pure _
      · exact .pure _
    · exact .pure _

/-- An annotated assignment evaluates the parts of its target if there is nothing to assign. -/
theorem runs_stored (target : Expr) (value : Option Expr) (after : Unit → Load Unit) :
    (∀ u, Keeps (World.Runs own w₀) (after u)) →
    sc.Knows own (match value with
      | some e => e.namings ++ target.targetNamings
      | none => target.namings) →
    Keeps (World.Runs own w₀) (match value with
      | some e => do
        let t ← eval call sc e
        let u ← assign call sc t target
        after u
      | none =>
        match target with
        | .member e _ => do
          let _ ← eval call sc e
          after ()
        | .subscript e i => do
          let _ ← eval call sc e
          let _ ← eval call sc i
          after ()
        | _ => after ()) := by
  intro next knows
  cases value with
  | some e =>
    obtain ⟨evaluated, assigned⟩ := knows_append.mp knows
    exact .bind (runs_eval calls e evaluated) fun t => .bind (runs_assign calls t target assigned) next
  | none =>
    cases target with
    | member e a => exact .bind (runs_eval calls e knows) fun _ => next ()
    | subscript e i =>
      obtain ⟨first, second⟩ := knows_append.mp knows
      exact .bind (runs_eval calls e first) fun _ => .bind (runs_eval calls i second) fun _ => next ()
    | _ => exact next ()

theorem runs_noted (target : Expr) (bare : Bool) {type : Expr} (knows : sc.Knows own type.namings) :
    Keeps (World.Runs own w₀) (do
      let marker ← annotationMarker call sc type
      match target, bare with
      | .name n, true => declare sc ⟨n, marker, type⟩
      | _, _ => pure ()) := by
  refine .bind (runs_annotationMarker calls type knows) fun marker => ?_
  split
  · exact runs_declare _
  · exact .pure _

theorem runs_annotated {target type : Expr} {bare : Bool} {value : Option Expr} {place : Pos}
    (knows : sc.Knows own (SimpleStmt.annotated target place bare type value).namings) :
    Keeps (World.Runs own w₀) (annotated call sc target bare type value) := by
  obtain ⟨typed, stored⟩ := knows_append.mp knows
  unfold annotated
  split
  · exact runs_stored calls target value _ (fun _ => runs_noted calls target bare typed) stored
  · exact runs_stored calls target value _ (fun _ => .pure _) stored

theorem runs_importModule (a : Alias) (knows : sc.Knows own [.bind a.boundName]) :
    Keeps (World.Runs own w₀) (importModule sc a) := by
  unfold importModule
  split
  · exact .raise _ _
  · unfold Alias.boundName at knows
    split
    · rename_i n renamed
      rw [renamed] at knows
      exact runs_define knows _
    · rename_i plain
      rw [plain] at knows
      exact runs_define knows _

theorem runs_importMembers (module : Text) (names : List Alias)
    (knows : sc.Knows own (names.map fun a => .bind (a.asName.getD a.name))) :
    Keeps (World.Runs own w₀) (importMembers sc module names) := by
  have named : Keeps (World.Runs own w₀)
      (names.forM fun a => define sc (a.asName.getD a.name) (Library.member module a.name)) := by
    refine .forM fun a member => runs_define (fun x same => ?_) _
    rw [List.mem_singleton.mp same]
    exact knows _ (List.mem_map.mpr ⟨a, member, rfl⟩)
  have plain : Keeps (World.Runs own w₀) (do
      if names.any (·.name == Text.ofString "*") then Load.fail .unsupported
      names.forM fun a => define sc (a.asName.getD a.name) (Library.member module a.name)) := by
    dsimp only
    split
    · exact .bind (.fail _) fun _ => named
    · exact named
  have noted : ∀ w, World.Runs own w₀ w → World.Runs own w₀ { w with lazily := true } := fun w runs =>
    runs.elsewhere rfl rfl (List.prefix_refl _) runs.functions
  unfold importMembers
  dsimp only
  split
  · refine .bind (.raise _ _) fun _ => ?_
    split
    · exact .bind (.modify noted) fun _ => plain
    · exact plain
  · split
    · exact .bind (.modify noted) fun _ => plain
    · exact plain

theorem runs_execSimple (s : SimpleStmt) (knows : sc.Knows own s.namings) :
    Keeps (World.Runs own w₀) (execSimple call sc s) := by
  cases s with
  | expression e =>
    rw [execSimple]
    exact .bind (runs_eval calls e knows) fun _ => .pure _
  | assign targets e =>
    obtain ⟨evaluated, assigned⟩ := knows_append.mp knows
    rw [targetNamingsIn_eq_flatMap] at assigned
    rw [execSimple]
    refine .bind (runs_eval calls e evaluated) fun t => .bind (.forM fun target member => ?_) fun _ => .pure _
    exact runs_assign calls t target (knows_flatMap assigned member)
  | augmented target op e =>
    obtain ⟨both, assigned⟩ := knows_append.mp knows
    obtain ⟨read, evaluated⟩ := knows_append.mp both
    rw [execSimple]
    refine .bind (runs_eval calls target read) fun old => .bind (runs_eval calls e evaluated) fun t => ?_
    exact .bind (keeps_operate op old t) fun new => .bind (runs_assign calls new target assigned) fun _ => .pure _
  | annotated target place bare type value =>
    rw [execSimple]
    exact .bind (runs_annotated calls knows) fun _ => .pure _
  | delete targets =>
    rw [SimpleStmt.namings, deletionNamingsIn_eq_flatMap] at knows
    rw [execSimple]
    refine .bind (.forM fun target member => ?_) fun _ => .pure _
    exact runs_delete target (knows_flatMap knows member)
  | returnValue value =>
    cases value with
    | none => exact .pure _
    | some e =>
      rw [execSimple]
      exact .bind (runs_eval calls e knows) fun _ => .pure _
  | raiseError error cause =>
    cases error with
    | none => exact .fail _
    | some e =>
      rw [execSimple]
      refine .bind (runs_eval calls e (knows_append.mp knows).1) fun _ => ?_
      split
      · exact .raise _ _
      · exact .raise _ _
      · exact .fail _
  | assert test message =>
    obtain ⟨tested, said⟩ := knows_append.mp knows
    refine .bind (runs_eval calls test tested) fun t => ?_
    split
    · exact .pure _
    · cases message with
      | none => exact .raise _ _
      | some e =>
        refine .bind (runs_eval calls e said) fun m => .bind (keeps_displayedThing calls m) fun _ => ?_
        exact .raise _ _
  | importNames names =>
    rw [execSimple]
    refine .bind (.forM fun a member => runs_importModule calls a fun x same => ?_) fun _ => .pure _
    rw [List.mem_singleton.mp same]
    exact knows _ (List.mem_map.mpr ⟨a, member, rfl⟩)
  | importFrom module level names =>
    cases module with
    | none => exact .fail _
    | some m =>
      cases level with
      | zero => exact .bind (runs_importMembers calls m names knows) fun _ => .pure _
      | succ level => exact .fail _
  | _ => first | exact .pure _ | exact .fail _

theorem runs_entered (i : WithItem)
    (knows : sc.Knows own (i.context.namings ++ (i.target.map Expr.targetNamings).getD [])) :
    Keeps (World.Runs own w₀) (do
      let t ← eval call sc i.context
      match i.target with
      | some target => assign call sc t target
      | none => pure ()) := by
  obtain ⟨evaluated, assigned⟩ := knows_append.mp knows
  refine .bind (runs_eval calls i.context evaluated) fun t => ?_
  split
  · rename_i target given
    rw [given] at assigned
    exact runs_assign calls t target assigned
  · exact .pure _

mutual

/-- A statement does to the names of the module what is written in it. -/
theorem runs_exec (sc : Scope) (s : Stmt) (knows : sc.Knows own s.namings) (announced : Announced own (s :: s.within)) :
    Keeps (World.Runs own w₀) (exec call sc s) := by
  cases s with
  | simple place s =>
    rw [exec]
    exact runs_execSimple calls s knows
  | functionDef place async n ps returns ds body =>
    rw [Stmt.namings, knows_append, knows_append, knows_append, Params.namings_eq] at knows
    obtain ⟨⟨⟨decorated, defaulted⟩, _⟩, bound⟩ := knows
    obtain ⟨outward, inner⟩ := List.forall_mem_cons.mp announced
    have made : ∀ defaults, Keeps (World.Runs own w₀) (makeFunction sc n ps defaults (.statements body)) :=
      @runs_makeFunction own w₀ (.statements body) (mem_of_outwardNamings outward) inner sc n ps
    rw [exec]
    refine .bind (runs_decoratorsOf calls ds decorated) fun decorators => ?_
    refine .bind (runs_defaultsOf calls _ defaulted) fun defaults => .bind (made defaults) fun f => ?_
    exact runs_decorated calls bound f decorators
  | classDef place n bases keywords ds body =>
    rw [Stmt.namings, knows_append, knows_append, knows_append] at knows
    obtain ⟨⟨⟨decorated, based⟩, named⟩, bound⟩ := knows
    obtain ⟨outward, inner⟩ := List.forall_mem_cons.mp announced
    have outer := mem_of_outwardNamings outward
    rw [exec]
    refine .bind (runs_decoratorsOf calls ds decorated) fun decorators => ?_
    refine .bind (runs_evalArgs calls bases based) fun bs => ?_
    refine .bind (runs_evalKeywords calls keywords named) fun _ => ?_
    refine runs_newFrame_bind [] fun frame apart => .get_bind fun w _ => ?_
    refine .bind (.modify fun _ runs => runs.addClass _) fun _ => ?_
    refine .bind (runs_execAll _ body (knows_inner apart outer) inner) fun flow => ?_
    split
    · refine .get_bind fun w _ => ?_
      split
      · dsimp only
        split
        · exact .bind (.fail _) fun _ => runs_completed calls bound bs decorators _ _
        · exact runs_completed calls bound bs decorators _ _
      · exact .fail _
    · exact .fail _
  | ifElse place test body orelse =>
    rw [Stmt.namings, knows_append, knows_append] at knows
    obtain ⟨⟨tested, yes⟩, no⟩ := knows
    obtain ⟨first, second⟩ := announced_append.mp (List.forall_mem_cons.mp announced).2
    rw [exec]
    refine .bind (runs_eval calls test tested) fun t => ?_
    split
    · exact runs_execAll sc body yes first
    · exact runs_execAll sc orelse no second
  | forLoop place async target iter body orelse =>
    rw [Stmt.namings, knows_append, knows_append, knows_append] at knows
    obtain ⟨⟨⟨iterated, targeted⟩, again⟩, no⟩ := knows
    obtain ⟨first, second⟩ := announced_append.mp (List.forall_mem_cons.mp announced).2
    rw [exec]
    refine .bind (runs_eval calls iter iterated) fun t => ?_
    split
    · exact .fail _
    · refine .bind (.foldlM (fun flow t _ => ?_) _) fun flow => ?_
      · split
        · exact .pure _
        · exact .bind (runs_assign calls t target targeted) fun _ => runs_execAll sc body again first
      · split
        · exact runs_execAll sc orelse no second
        · exact .pure _
  | withBlock place async items body =>
    rw [Stmt.namings, knows_append] at knows
    obtain ⟨opened, inside⟩ := knows
    rw [exec]
    refine .bind (.forM fun i member => ?_) fun _ => runs_execAll sc body inside (List.forall_mem_cons.mp announced).2
    have here := knows_flatMap opened member
    exact runs_entered calls i here
  | tryBlock place async body handlers orelse final =>
    rw [Stmt.namings, knows_append, knows_append, knows_append] at knows
    obtain ⟨⟨⟨tried, handled⟩, otherwise⟩, last⟩ := knows
    obtain ⟨first, second, third, fourth⟩ := announced_try announced
    rw [exec]
    refine .bind (keeps_attempt (runs_execAll sc body tried first) (runs_execAll sc orelse otherwise third)
      fun f => runs_execHandlers sc f handlers handled second) fun outcome => ?_
    refine .bind (runs_execAll sc final last fourth) fun flow => ?_
    split
    · exact .pure _
    · exact .pure _
    · exact .throw _
  | _ => exact .fail _

theorem runs_execAll (sc : Scope) (ss : List Stmt) (knows : sc.Knows own (namingsAmong ss))
    (announced : Announced own (stmtsWithin ss)) : Keeps (World.Runs own w₀) (execAll call sc ss) := by
  cases ss with
  | nil =>
    rw [execAll]
    exact .pure _
  | cons s rest =>
    rw [namingsAmong, knows_append] at knows
    rw [stmtsWithin, announced_append] at announced
    rw [execAll]
    refine .bind (runs_exec sc s knows.1 announced.1) fun flow => ?_
    split
    · exact runs_execAll sc rest knows.2 announced.2
    · exact .pure _

theorem runs_execHandlers (sc : Scope) (f : LoadFault) (hs : List Handler) (knows : sc.Knows own (namingsInHandlers hs))
    (announced : Announced own (handlersWithin hs)) : Keeps (World.Runs own w₀) (execHandlers call sc f hs) := by
  cases hs with
  | nil =>
    rw [execHandlers]
    exact .throw _
  | cons h rest =>
    cases h with
    | mk type name body =>
      rw [namingsInHandlers, knows_append, knows_append, knows_append] at knows
      obtain ⟨⟨⟨typed, named⟩, inside⟩, others⟩ := knows
      rw [handlersWithin, announced_append] at announced
      obtain ⟨first, second⟩ := announced
      have next := runs_execHandlers sc f rest others second
      have run := runs_execAll sc body inside first
      rw [execHandlers.eq_def]
      cases type with
      | none => exact .bind (.pure _) fun fits => runs_handled fits _ name next run named
      | some e =>
        refine .bind (runs_eval calls e typed) fun t => .bind (.pure _) fun fits => ?_
        exact runs_handled fits _ name next run named

end

end Loading

end FluentRecords
