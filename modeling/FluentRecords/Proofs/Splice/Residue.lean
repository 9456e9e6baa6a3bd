import FluentRecords.Proofs.Splice.Verdict

/-!
Requests that are left in a spliced module. Nested declarations with the activation decorator are refused, and
builders carry no decorators at all; so what is left comes from a record with more than one activation
decorator, or from factories, whose own decorator may be the one that activates.
-/

namespace FluentRecords

/-- Statements without any decorator in them. -/
def Undecorated (ss : List Stmt) : Prop :=
  ∀ s ∈ stmtsWithin ss, s.decorators = []

namespace Undecorated

variable {ss rest : List Stmt}

theorem nil : Undecorated [] :=
  fun _ none => by cases none

theorem append (first : Undecorated ss) (next : Undecorated rest) : Undecorated (ss ++ rest) := by
  intro s member
  rw [stmtsWithin_append] at member
  exact (List.mem_append.mp member).elim (first s) (next s)

theorem cons {s : Stmt} (own : s.decorators = []) (inner : ∀ t ∈ s.within, t.decorators = [])
    (next : Undecorated rest) : Undecorated (s :: rest) := by
  intro t member
  rw [stmtsWithin, List.cons_append] at member
  rcases List.mem_cons.mp member with rfl | member
  · exact own
  · exact (List.mem_append.mp member).elim (inner t) (next t)

theorem of_forall (each : ∀ s ∈ ss, Undecorated [s]) : Undecorated ss := by
  induction ss with
  | nil => exact nil
  | cons s others ih =>
    rw [← List.singleton_append]
    exact (each s List.mem_cons_self).append (ih fun t member => each t (List.mem_cons_of_mem _ member))

theorem line (s : SimpleStmt) (next : Undecorated rest) : Undecorated (Emission.line s :: rest) :=
  cons rfl (fun _ none => by cases none) next

theorem whenever (test : Expr) (body : Undecorated ss) (next : Undecorated rest) :
    Undecorated (Emission.whenever test ss :: rest) := by
  refine cons rfl (fun t member => body t ?_) next
  rwa [Emission.whenever, Stmt.within, stmtsWithin, List.append_nil] at member

theorem function (name : Text) (params : List Param) (returns : Expr) (body : Undecorated ss)
    (next : Undecorated rest) : Undecorated (Emission.function name params returns [] ss :: rest) :=
  cons rfl body next

end Undecorated

namespace Emission

theorem undecorated_checks (collect : Bool) (required : List Slot) : Undecorated (checks collect required) := by
  have raising : ∀ names, Undecorated [raiseMissing names] := fun _ => .line _ .nil
  rw [checks]
  split
  · refine (Undecorated.line _ (.of_forall fun s member => ?_)).append (.whenever _ (raising _) .nil)
    obtain ⟨slot, _, rfl⟩ := List.mem_map.mp member
    exact .whenever _ (.line _ .nil) .nil
  · refine .of_forall fun s member => ?_
    obtain ⟨slot, _, rfl⟩ := List.mem_map.mp member
    exact .whenever _ (raising _) .nil

/-- A builder class holds no decorators. -/
theorem undecorated_builderClass (b : BuilderShape) (settings : Settings) :
    Undecorated [(builderClass b settings).stmt] := by
  refine .cons rfl ?_ .nil
  change Undecorated (builderClass b settings).body
  refine .line _ (.line _ (.function _ _ _ ?_ (.append ?_ (.function _ _ _ ?_ .nil))))
  · refine .of_forall fun s member => ?_
    obtain ⟨slot, _, rfl⟩ := List.mem_map.mp member
    exact .line _ .nil
  · refine .of_forall fun s member => ?_
    obtain ⟨slot, _, rfl⟩ := List.mem_map.mp member
    exact .function _ _ _ (.line _ (.line _ .nil)) .nil
  · exact (undecorated_checks _ _).append (.line _ .nil)

/-- The decorator of factories. -/
def factoryDecorator : Text :=
  "staticmethod"

theorem isAnnotated_factory (builder activation : Text) (settings : Settings) :
    (factory builder settings).isAnnotated activation = decide (activation = factoryDecorator) := by
  have own : (factory builder settings).isAnnotated activation =
      (some factoryDecorator == some activation || false) := rfl
  rw [own, Bool.or_false, Option.some_beq_some, beq_eq_decide, decide_eq_decide]
  exact eq_comm

end Emission

theorem Stmt.undecorated_isText {s : Stmt} (text : s.isText = true) : Undecorated [s] := by
  unfold Stmt.isText at text
  split at text
  · exact .cons rfl (fun _ none => by cases none) .nil
  · cases text

theorem Stmt.undecorated_isFutureImport {s : Stmt} (future : s.isFutureImport = true) : Undecorated [s] := by
  unfold Stmt.isFutureImport at future
  split at future
  · exact .cons rfl (fun _ none => by cases none) .nil
  · cases future

/-- Nothing is decorated before the import. -/
theorem Module.undecorated_preamble (m : Module) : Undecorated (m.body.take m.importIndex) := by
  have future : ∀ ss : List Stmt, Undecorated (ss.take (ss.takeWhile Stmt.isFutureImport).length) := by
    intro ss
    rw [← List.prefix_iff_eq_take.mp (List.takeWhile_prefix _)]
    exact .of_forall fun s member => Stmt.undecorated_isFutureImport (List.mem_takeWhile_imp member)
  rw [Module.importIndex, List.take_add]
  refine .append ?_ (future _)
  cases m.body with
  | nil => exact .nil
  | cons s rest =>
    cases text : s.isText with
    | true => simpa [text] using Stmt.undecorated_isText text
    | false => simpa [text] using Undecorated.nil

/-- How often a declaration carries the activation decorator. -/
def Stmt.activations (activation : Text) (s : Stmt) : Nat :=
  s.decorators.countP (·.expr.isActivation activation)

/-- Statements without an annotated declaration in them. -/
def Quiet (activation : Text) (ss : List Stmt) : Prop :=
  ∀ s ∈ stmtsWithin ss, s.isAnnotated activation = false

namespace Quiet

variable {activation : Text} {ss rest : List Stmt}

theorem append_iff : Quiet activation (ss ++ rest) ↔ Quiet activation ss ∧ Quiet activation rest := by
  simp only [Quiet, stmtsWithin_append, List.forall_mem_append]

theorem cons_iff {s : Stmt} : Quiet activation (s :: rest) ↔
    s.isAnnotated activation = false ∧ (∀ t ∈ s.within, t.isAnnotated activation = false) ∧
      Quiet activation rest := by
  simp only [Quiet, stmtsWithin, List.forall_mem_cons, List.forall_mem_append, List.cons_append]

theorem of_undecorated (undecorated : Undecorated ss) : Quiet activation ss := by
  intro s member
  rw [Stmt.isAnnotated, undecorated s member]
  rfl

end Quiet

/-- What is generated is quiet, unless factories are decorated with the activation decorator. -/
theorem Request.expand_quiet (activation : Text) {settings : Settings} {r : Request} {e : Expansion} {g : Generated}
    (named : r.stmt.declaredName? = some r.name) (run : r.expand settings = .ok e)
    (generated : e.generated = some g) :
    Quiet activation [g.builder.stmt] ∧ (Quiet activation [g.factory] ↔ activation ≠ Emission.factoryDecorator) := by
  cases Request.expand_decided named run with
  | refused error => cases generated
  | @complete record own classified =>
    cases generated
    refine ⟨.of_undecorated (Emission.undecorated_builderClass _ _), ?_⟩
    have inside : ∀ t ∈ (Generated.ofRecord record own).factory.within, t.isAnnotated activation = false :=
      Quiet.of_undecorated (.line _ .nil)
    have alone : Quiet activation [] := .of_undecorated .nil
    rw [Quiet.cons_iff, and_iff_left ⟨inside, alone⟩]
    change (Emission.factory _ own).isAnnotated activation = false ↔ _
    rw [Emission.isAnnotated_factory, decide_eq_false_iff_not]

variable {settings : Settings} {m : Module}

/-- No declaration inside another statement is annotated if all expansions succeed. -/
theorem Module.within_quiet {es : List Expansion} (expanded : m.expandAll settings = .ok es)
    (clean : ∀ e ∈ es, e.hasErrors = false) {s t : Stmt} (member : s ∈ m.body) (inside : t ∈ s.within) :
    t.isAnnotated settings.activationName.val = false := by
  rw [← Request.isSome_ofStmt? _ false, Option.isSome_eq_false_iff, Option.isNone_iff_eq_none]
  cases requested : Request.ofStmt? settings.activationName.val false t with
  | none => rfl
  | some r =>
    have nested := List.mem_append_right (Request.ofStmt? settings.activationName.val true s).toList
      (List.mem_filterMap.mpr ⟨t, inside, requested⟩)
    have listed : r ∈ m.requests settings.activationName.val :=
      List.mem_mergeSort.mpr (List.mem_flatMap.mpr ⟨s, member, nested⟩)
    obtain ⟨e, answered, run⟩ := mapM_ok_mem expanded listed
    have inner := (Request.ofStmt?_eq_some requested).2.1
    cases inner.symm.trans (Request.expand_accepted run (clean e answered)).1

theorem Splice.Replaced.quiet_iff {es : List Expansion} {s : Stmt} {part : List Stmt}
    (replaced : Splice.Replaced settings es s part)
    (inner : ∀ t ∈ s.within, t.isAnnotated settings.activationName.val = false) :
    Quiet settings.activationName.val part ↔
      (s.isAnnotated settings.activationName.val = true →
        settings.activationName.val ≠ Emission.factoryDecorator ∧
          s.activations settings.activationName.val ≤ 1) := by
  have alone : Quiet settings.activationName.val [] := .of_undecorated .nil
  cases replaced with
  | kept plain =>
    have own := Stmt.isAnnotated_eq_false.mpr plain
    refine iff_of_true (Quiet.cons_iff.mpr ⟨own, inner, alone⟩) ?_
    rw [own]
    exact fun annotated => by cases annotated
  | @record place name bases keywords before after d body e g first activates expanded listed generated =>
    obtain ⟨builder, factory⟩ := Request.expand_quiet settings.activationName.val rfl expanded generated
    have annotated : (Stmt.classDef place name bases keywords (before ++ d :: after) body).isAnnotated
        settings.activationName.val = true := by
      rw [Stmt.isAnnotated, List.any_eq_true]
      exact ⟨d, by simp [Stmt.decorators], activates⟩
    have once : (Stmt.classDef place name bases keywords (before ++ after) (body ++ [g.factory])).isAnnotated
          settings.activationName.val = false ↔
        (Stmt.classDef place name bases keywords (before ++ d :: after) body).activations
          settings.activationName.val ≤ 1 := by
      have none : before.countP (·.expr.isActivation settings.activationName.val) = 0 :=
        List.countP_eq_zero.mpr fun other member => Bool.eq_false_iff.mp (first other member)
      have others : (∀ other ∈ after, other.expr.isActivation settings.activationName.val = false) ↔
          after.countP (·.expr.isActivation settings.activationName.val) = 0 := by
        simp only [List.countP_eq_zero, Bool.not_eq_true]
      rw [Stmt.isAnnotated_eq_false, Stmt.activations, Stmt.decorators, Stmt.decorators, List.countP_append, none,
        List.countP_cons, if_pos activates, List.forall_mem_append, and_iff_right first, others]
      omega
    have unchanged : Quiet settings.activationName.val body := inner
    have within : Quiet settings.activationName.val (body ++ [g.factory]) ↔
        settings.activationName.val ≠ Emission.factoryDecorator := by
      rw [Quiet.append_iff, and_iff_right unchanged, factory]
    rw [Quiet.cons_iff, once, and_iff_left builder, and_comm, iff_true_intro annotated, true_imp_iff]
    exact and_congr_left' within

theorem Module.expandAll_eq_nil {es : List Expansion} (expanded : m.expandAll settings = .ok es) :
    es = [] ↔ m.requests settings.activationName.val = [] := by
  have each := mapM_eq_ok.mp expanded
  rw [← List.length_eq_zero_iff, ← each.length_eq, List.length_eq_zero_iff]

/-- Where every request of a module is expanded without an error, the module stays as it was if there is none,
and otherwise its statements are replaced one by one. -/
theorem Module.splice_of_clean {es : List Expansion} (expanded : m.expandAll settings = .ok es)
    (clean : ∀ e ∈ es, e.hasErrors = false) :
    ∃ s, m.splice settings = .ok s ∧ s.expansions = es ∧
      (s = ⟨m, []⟩ ∨ es ≠ [] ∧ ∃ parts,
        s.module.body = m.body.take m.importIndex ++ Emission.supportImport :: parts.flatten ∧
        List.Forall₂ (Splice.Replaced settings es) (m.body.drop m.importIndex) parts) := by
  have fine : (Splice.mk m es).hasErrors = false := Splice.hasErrors_eq_false.mpr clean
  by_cases none : es = []
  · subst none
    exact ⟨⟨m, []⟩, Module.splice_quiet ((Module.expandAll_eq_nil expanded).mp rfl), rfl, Or.inl rfl⟩
  · have answered : ∀ s ∈ m.body.drop m.importIndex, ∀ r,
        Request.ofStmt? settings.activationName.val true s = some r → ∃ e ∈ es, r.expand settings = .ok e :=
      fun s member r requested =>
        mapM_ok_mem expanded (Request.mem_requests (List.mem_of_mem_drop member) requested)
    obtain ⟨parts, made, replaced⟩ := Splice.statements_replaced answered clean
    refine ⟨⟨⟨m.body.take m.importIndex ++ Emission.supportImport :: parts.flatten⟩, es⟩, ?_, rfl,
      Or.inr ⟨none, parts, rfl, replaced⟩⟩
    have goes : ((Splice.mk m es).hasErrors || es.isEmpty) = false := by
      rw [fine, List.isEmpty_eq_false_iff.mpr none, Bool.or_self]
    simp only [Module.splice, expanded, goes, Module.preamble_eq, made, bind, Except.bind, Bool.false_eq_true,
      if_false]

/-- Whether a module was spliced with errors, its expansions tell. -/
theorem Splice.each_clean {s : Splice} (clean : s.hasErrors = false) : ∀ e ∈ s.expansions, e.hasErrors = false :=
  (Splice.hasErrors_eq_false (m := s.module)).mp clean

/-- The decorators in a module, declaration by declaration. -/
def Module.decorators (m : Module) : List (List Expr) :=
  (stmtsWithin m.body).map fun s => s.decorators.map Decorator.expr

theorem Module.quiet_iff_decorators (activation : Text) (m : Module) :
    Quiet activation m.body ↔ ∀ ds ∈ m.decorators, ∀ e ∈ ds, e.isActivation activation = false := by
  simp only [Quiet, Module.decorators, List.forall_mem_map, Stmt.isAnnotated_eq_false]

theorem Module.requests_eq_nil_iff_quiet {activation : Text} :
    m.requests activation = [] ↔ Quiet activation m.body :=
  Module.requests_eq_nil_iff

/-- Annotated statements of a module stand behind the import. -/
theorem Module.mem_drop_of_isAnnotated {activation : Text} {s : Stmt} (member : s ∈ m.body)
    (annotated : s.isAnnotated activation = true) : s ∈ m.body.drop m.importIndex := by
  rw [← List.take_append_drop m.importIndex m.body] at member
  rcases List.mem_append.mp member with first | rest
  · have inside : s ∈ stmtsWithin (m.body.take m.importIndex) := by
      rw [stmtsWithin_eq_flatMap]
      exact List.mem_flatMap.mpr ⟨s, first, List.mem_cons_self⟩
    rw [Quiet.of_undecorated m.undecorated_preamble s inside] at annotated
    cases annotated
  · exact rest

theorem Stmt.activations_eq_zero {activation : Text} {s : Stmt} (plain : s.isAnnotated activation = false) :
    s.activations activation = 0 :=
  List.countP_eq_zero.mpr fun d member => Bool.eq_false_iff.mp (Stmt.isAnnotated_eq_false.mp plain d member)

/-- Where an expansion succeeds, a statement of the module itself is annotated. -/
theorem Module.exists_isAnnotated {es : List Expansion} (expanded : m.expandAll settings = .ok es)
    (clean : ∀ e ∈ es, e.hasErrors = false) (some : es ≠ []) :
    ∃ s ∈ m.body, s.isAnnotated settings.activationName.val = true := by
  by_contra plain
  refine some ((Module.expandAll_eq_nil expanded).mpr (Module.requests_eq_nil_iff.mpr fun t inside => ?_))
  rw [stmtsWithin_eq_flatMap] at inside
  obtain ⟨s, member, inside⟩ := List.mem_flatMap.mp inside
  rcases List.mem_cons.mp inside with rfl | inner
  · exact Bool.eq_false_iff.mpr fun annotated => plain ⟨_, member, annotated⟩
  · exact Module.within_quiet expanded clean member inner

/-- The statements that take the place of others are quiet if and only if each of the others allows for it. -/
theorem Splice.quiet_flatten_iff {es : List Expansion} {ss : List Stmt} {parts : List (List Stmt)}
    (replaced : List.Forall₂ (Splice.Replaced settings es) ss parts)
    (inner : ∀ s ∈ ss, ∀ t ∈ s.within, t.isAnnotated settings.activationName.val = false) :
    Quiet settings.activationName.val parts.flatten ↔
      ∀ s ∈ ss, s.isAnnotated settings.activationName.val = true →
        settings.activationName.val ≠ Emission.factoryDecorator ∧
          s.activations settings.activationName.val ≤ 1 := by
  induction replaced with
  | nil => exact iff_of_true (.of_undecorated .nil) fun _ none => by cases none
  | cons first others ih =>
    have others := ih fun s member => inner s (List.mem_cons_of_mem _ member)
    rw [List.flatten_cons, Quiet.append_iff, List.forall_mem_cons, others,
      first.quiet_iff (inner _ List.mem_cons_self)]

/-- A module that was spliced without errors makes no further requests if it made none before, or if factories
are not decorated with the activation decorator and no declaration carries it more than once; and only then. -/
theorem Module.requests_splice {s : Splice} (run : m.splice settings = .ok s) (clean : s.hasErrors = false) :
    s.module.requests settings.activationName.val = [] ↔
      s.expansions = [] ∨ settings.activationName.val ≠ Emission.factoryDecorator ∧
        ∀ stmt ∈ m.body, stmt.activations settings.activationName.val ≤ 1 := by
  have expanded := Module.splice_expansions run
  have each := Splice.each_clean clean
  obtain ⟨_, again, _, shape⟩ := Module.splice_of_clean expanded each
  cases run.symm.trans again
  rcases shape with rfl | ⟨some, parts, body, replaced⟩
  · exact iff_of_true ((Module.expandAll_eq_nil expanded).mp rfl) (Or.inl rfl)
  · have inner : ∀ s ∈ m.body.drop m.importIndex, ∀ t ∈ s.within,
        t.isAnnotated settings.activationName.val = false :=
      fun s member t inside => Module.within_quiet expanded each (List.mem_of_mem_drop member) inside
    have import_quiet : Quiet settings.activationName.val [Emission.supportImport] :=
      .of_undecorated (.line _ .nil)
    have preamble_quiet : Quiet settings.activationName.val (m.body.take m.importIndex) :=
      .of_undecorated m.undecorated_preamble
    rw [Module.requests_eq_nil_iff_quiet, body, Quiet.append_iff, and_iff_right preamble_quiet,
      ← List.singleton_append, Quiet.append_iff, and_iff_right import_quiet,
      Splice.quiet_flatten_iff replaced inner, or_iff_right some]
    constructor
    · intro all
      obtain ⟨s, member, annotated⟩ := Module.exists_isAnnotated expanded each some
      refine ⟨(all s (Module.mem_drop_of_isAnnotated member annotated) annotated).1, fun stmt inside => ?_⟩
      cases carries : stmt.isAnnotated settings.activationName.val with
      | true => exact (all stmt (Module.mem_drop_of_isAnnotated inside carries) carries).2
      | false =>
        rw [Stmt.activations_eq_zero carries]
        exact Nat.zero_le 1
    · rintro ⟨other, once⟩ stmt member _
      exact ⟨other, once stmt (List.mem_of_mem_drop member)⟩

/-- A source in which the decorators of a module without requests are read is not changed. -/
theorem Module.transform_same_decorators {again : Module} {source : Text}
    (quiet : m.requests settings.activationName.val = []) (parsed : Module.parse source = .ok again)
    (same : again.decorators = m.decorators) : transform settings source = .ok ⟨some source, [], []⟩ := by
  refine Module.transform_quiet parsed ?_
  rw [Module.requests_eq_nil_iff_quiet, Module.quiet_iff_decorators] at quiet ⊢
  rwa [same]

/-- A module that was spliced without errors makes no further requests exactly if it made none before, or if
factories are not decorated with the activation decorator and no declaration carries it more than once. Without
requests the module is not changed when it is spliced again, and neither is a source in which its decorators
are read. -/
theorem Module.splice_requests_eq_nil_iff {s : Splice} (run : m.splice settings = .ok s)
    (clean : s.hasErrors = false) :
    (s.module.requests settings.activationName.val = [] ↔
      s.expansions = [] ∨ settings.activationName.val ≠ Emission.factoryDecorator ∧
        ∀ stmt ∈ m.body, stmt.activations settings.activationName.val ≤ 1) ∧
    (s.module.requests settings.activationName.val = [] →
      s.module.splice settings = .ok ⟨s.module, []⟩ ∧
      ∀ source again, Module.parse source = .ok again → again.decorators = s.module.decorators →
        transform settings source = .ok ⟨some source, [], []⟩) :=
  ⟨Module.requests_splice run clean, fun quiet => ⟨Module.splice_quiet quiet,
    fun _ _ parsed same => Module.transform_same_decorators quiet parsed same⟩⟩

/-- A module with one record, under the given decorators. -/
def Module.decorated (decorators : List Expr) : Module where
  body :=
    [.classDef .start "P" [] [] (decorators.map (⟨.start, ·⟩))
      [.simple .start (.annotated (.name "x") .start true (.name "int") none)]]

/-- The decorated record is spliced if its only request is expanded without an error. -/
theorem Module.splice_decorated (settings : Settings) (decorators : List Expr) {r : Request}
    (requested : (Module.decorated decorators).body.flatMap (Request.ofTopLevel settings.activationName.val) = [r])
    (expands : ∃ e, r.expand settings = .ok e ∧ e.hasErrors = false) :
    ∃ s, (Module.decorated decorators).splice settings = .ok s ∧ s.hasErrors = false ∧ s.expansions ≠ [] := by
  obtain ⟨e, run, clean⟩ := expands
  have expanded : (Module.decorated decorators).expandAll settings = .ok [e] := by
    rw [Module.expandAll, Module.requests, requested, List.mergeSort_singleton]
    exact mapM_eq_ok.mpr (.cons run .nil)
  have each : ∀ other ∈ [e], other.hasErrors = false := by
    intro other member
    rwa [List.mem_singleton.mp member]
  obtain ⟨s, spliced, same, _⟩ := Module.splice_of_clean expanded each
  have fine : ∀ other ∈ s.expansions, other.hasErrors = false := by rwa [same]
  exact ⟨s, spliced, (Splice.hasErrors_eq_false (m := s.module)).mpr fine, same ▸ List.cons_ne_nil e []⟩

theorem splice_requests_final :
    ∃ s, (Module.decorated [.name "final", .name "derive_builder"]).splice .default = .ok s ∧ s.expansions ≠ [] ∧
      s.module.requests Settings.default.activationName.val = [] ∧
      s.module.splice .default = .ok ⟨s.module, []⟩ := by
  obtain ⟨s, run, clean, some⟩ := Module.splice_decorated .default
    [.name "final", .name "derive_builder"] rfl ⟨_, rfl, rfl⟩
  obtain ⟨requests, stays⟩ := Module.splice_requests_eq_nil_iff run clean
  have none := requests.mpr (Or.inr ⟨by decide, by decide⟩)
  exact ⟨s, run, some, none, (stays none).1⟩

/-- Settings under which what decorates factories activates. -/
def Settings.staticActivation : Settings :=
  { Settings.default with activationName := ⟨Emission.factoryDecorator, by decide⟩ }

/-- A second activation decorator is left to a record, and so is the decorator of its factory where that one
activates: requests are left in a module that was spliced without errors. -/
theorem splice_requests_left :
    (∃ s, (Module.decorated [.name "derive_builder", .name "derive_builder"]).splice .default = .ok s ∧
      s.hasErrors = false ∧ s.module.requests Settings.default.activationName.val ≠ []) ∧
    ∃ s, (Module.decorated [.name Emission.factoryDecorator]).splice .staticActivation = .ok s ∧
      s.hasErrors = false ∧ s.module.requests Settings.staticActivation.activationName.val ≠ [] := by
  constructor
  · obtain ⟨s, run, clean, some⟩ := Module.splice_decorated .default
      [.name "derive_builder", .name "derive_builder"] rfl ⟨_, rfl, rfl⟩
    refine ⟨s, run, clean, fun none => ?_⟩
    obtain ⟨_, once⟩ := ((Module.requests_splice run clean).mp none).resolve_left some
    exact absurd once (by decide)
  · obtain ⟨s, run, clean, some⟩ := Module.splice_decorated .staticActivation
      [.name Emission.factoryDecorator] rfl ⟨_, rfl, rfl⟩
    refine ⟨s, run, clean, fun none => ?_⟩
    obtain ⟨other, _⟩ := ((Module.requests_splice run clean).mp none).resolve_left some
    exact other rfl

end FluentRecords
