import FluentRecords.Proofs.Activation.Requests
import FluentRecords.Proofs.Activation.Settings
import FluentRecords.Proofs.Outcome
import FluentRecords.Proofs.Record.Expansion
import FluentRecords.Splice
import Mathlib

/-!
The body of a spliced module. Where every request of a module is expanded without an error, the body is
what stood before the import, the import, and then each statement as it was or, for a record, the record
with its factory and its builder class behind it. A source without requests is left alone.
-/

namespace FluentRecords

/-- How many statements the import may not come before: a docstring and the imports from the future
that follow it directly. -/
def Module.importIndex (m : Module) : Nat :=
  let start := match m.body with
    | s :: _ => if s.isText then 1 else 0
    | [] => 0
  start + ((m.body.drop start).takeWhile Stmt.isFutureImport).length

namespace Splice

/-- What becomes of a statement whose request, if it makes one, is among those expanded: it is kept, or
it is a record that trades its first activation decorator for a factory and is followed by its builder. -/
inductive Replaced (settings : Settings) (es : List Expansion) : Stmt → List Stmt → Prop
  | kept {s : Stmt} (plain : ∀ d ∈ s.decorators, d.expr.isActivation settings.activationName.val = false) :
      Replaced settings es s [s]
  | record {place : Pos} {name : Text} {bases : List Expr} {keywords : List Keyword}
      {before after : List Decorator} {d : Decorator} {body : List Stmt} {e : Expansion} {g : Generated}
      (first : ∀ other ∈ before, other.expr.isActivation settings.activationName.val = false)
      (activates : d.expr.isActivation settings.activationName.val = true)
      (expanded : Request.expand settings
        ⟨.classDef place name bases keywords (before ++ d :: after) body, name, d, true⟩ = .ok e)
      (listed : e ∈ es) (generated : e.generated = some g) :
      Replaced settings es (.classDef place name bases keywords (before ++ d :: after) body)
        [.classDef place name bases keywords (before ++ after) (body ++ [g.factory]), g.builder.stmt]

end Splice

/-- Splitting a list where a property ends is splitting it after as many entries as have the property. -/
theorem span_eq_take_drop {α : Type} (p : α → Bool) (l : List α) :
    l.span p = (l.take (l.takeWhile p).length, l.drop (l.takeWhile p).length) := by
  have first : l.takeWhile p = l.take (l.takeWhile p).length :=
    List.prefix_iff_eq_take.mp (List.takeWhile_prefix p)
  have rest : l.drop (l.takeWhile p).length = l.dropWhile p := by
    have parts := List.takeWhile_append_dropWhile (p := p) (l := l)
    have dropped : (l.takeWhile p ++ l.dropWhile p).drop (l.takeWhile p).length = l.dropWhile p :=
      List.drop_left
    rw [parts] at dropped
    exact dropped
  rw [List.span_eq_takeWhile_dropWhile, ← first, rest]

theorem Module.preamble_eq (m : Module) :
    m.preamble = (m.body.take m.importIndex, m.body.drop m.importIndex) := by
  unfold Module.preamble Module.importIndex
  cases m.body with
  | nil => rfl
  | cons s rest =>
    cases text : s.isText with
    | true =>
      simp only [text, if_true, span_eq_take_drop, List.drop_succ_cons, List.drop_zero,
        Nat.add_comm 1, List.take_succ_cons, List.cons_append, List.nil_append]
    | false =>
      simp only [text, Bool.false_eq_true, if_false, span_eq_take_drop, List.drop_zero, Nat.zero_add,
        List.nil_append]

/-- A request that is expanded without an error is one for a class, and something was generated for it. -/
theorem Request.expand_clean {settings : Settings} {r : Request} {e : Expansion}
    (run : r.expand settings = .ok e) (clean : e.hasErrors = false) :
    r.stmt.classDecl?.isSome = true ∧ e.generated.isSome = true := by
  obtain ⟨_, _, _, expanded⟩ := expand_accepted run clean
  exact Expansion.expand_clean expanded clean

theorem Stmt.withFactory_classDef (place : Pos) (name : Text) (bases : List Expr) (keywords : List Keyword)
    {before after : List Decorator} {d : Decorator} (body : List Stmt) {activation : Text} (factory : Stmt)
    (first : ∀ other ∈ before, other.expr.isActivation activation = false)
    (activates : d.expr.isActivation activation = true) :
    (Stmt.classDef place name bases keywords (before ++ d :: after) body).withFactory activation factory =
      .classDef place name bases keywords (before ++ after) (body ++ [factory]) := by
  have skipped : ∀ other ∈ before, ¬ other.expr.isActivation activation = true :=
    fun other member => Bool.eq_false_iff.mp (first other member)
  have erased : (before ++ d :: after).eraseP (·.expr.isActivation activation) = before ++ after := by
    rw [List.eraseP_append_right _ skipped, List.eraseP_cons, activates, cond_true]
  rw [Stmt.withFactory, erased]

/-- A statement whose request was expanded without an error is replaced as it should be. -/
theorem Splice.statement_replaced {settings : Settings} {es : List Expansion} {s : Stmt}
    (expanded : ∀ r, Request.ofStmt? settings.activationName.val true s = some r →
      ∃ e ∈ es, r.expand settings = .ok e)
    (clean : ∀ e ∈ es, e.hasErrors = false) :
    ∃ part, Splice.statement settings s = .ok part ∧ Splice.Replaced settings es s part := by
  cases requested : Request.ofStmt? settings.activationName.val true s with
  | none =>
    refine ⟨[s], ?_, .kept (Request.ofStmt?_eq_none requested)⟩
    simp only [Splice.statement, requested]
  | some r =>
    obtain ⟨e, listed, run⟩ := expanded r requested
    obtain ⟨isClass, complete⟩ := Request.expand_clean run (clean e listed)
    obtain ⟨g, generated⟩ := Option.isSome_iff_exists.mp complete
    obtain ⟨stmt, top, named, found⟩ := Request.ofStmt?_eq_some requested
    have done : Splice.statement settings s =
        .ok [s.withFactory settings.activationName.val g.factory, g.builder.stmt] := by
      simp only [Splice.statement, requested, run, generated, bind, Except.bind]
    obtain ⟨inner, name, decorator, topLevel⟩ := r
    change inner = s at stmt
    subst stmt top
    cases inner with
    | classDef place declared bases keywords decorators body =>
      have same : declared = name := Option.some.inj named
      obtain ⟨activates, before, after, split, first⟩ := List.find?_eq_some_iff_append.mp found
      change decorators = before ++ decorator :: after at split
      subst same split
      have others : ∀ d ∈ before, d.expr.isActivation settings.activationName.val = false := by
        intro d member
        simpa using first d member
      rw [Stmt.withFactory_classDef place declared bases keywords body g.factory others activates] at done
      exact ⟨_, done, .record others activates run listed generated⟩
    | _ => cases isClass

/-- Statements whose requests were expanded without an error are replaced one by one. -/
theorem Splice.statements_replaced {settings : Settings} {es : List Expansion} {ss : List Stmt}
    (expanded : ∀ s ∈ ss, ∀ r, Request.ofStmt? settings.activationName.val true s = some r →
      ∃ e ∈ es, r.expand settings = .ok e)
    (clean : ∀ e ∈ es, e.hasErrors = false) :
    ∃ parts, Splice.statements settings ss = .ok parts.flatten ∧
      List.Forall₂ (Splice.Replaced settings es) ss parts := by
  induction ss with
  | nil => exact ⟨[], rfl, .nil⟩
  | cons s rest ih =>
    obtain ⟨part, here, replaced⟩ := Splice.statement_replaced (expanded s List.mem_cons_self) clean
    obtain ⟨parts, more, others⟩ := ih fun s member => expanded s (List.mem_cons_of_mem _ member)
    refine ⟨part :: parts, ?_, .cons replaced others⟩
    simp only [Splice.statements, here, more, bind, Except.bind, List.flatten_cons]

theorem Splice.hasErrors_eq_false {m : Module} {es : List Expansion} :
    (Splice.mk m es).hasErrors = false ↔ ∀ e ∈ es, e.hasErrors = false := by
  simp only [Splice.hasErrors, Splice.diagnostics, Expansion.hasErrors, List.any_flatMap,
    List.any_eq_false, Bool.not_eq_true]

/-- A module without requests stays as it is. -/
theorem Module.splice_quiet {settings : Settings} {m : Module} (quiet : m.requests settings.activationName.val = []) :
    m.splice settings = .ok ⟨m, []⟩ := by
  have none : m.expandAll settings = .ok [] := by
    rw [Module.expandAll, quiet]
    rfl
  simp only [Module.splice, none, List.isEmpty_nil, Bool.or_true, if_true, bind, Except.bind]

/-- A source without requests stays as it is. -/
theorem Module.transform_quiet {settings : Settings} {source : Text} {m : Module}
    (parsed : Module.parse source = .ok m) (quiet : m.requests settings.activationName.val = []) :
    transform settings source = .ok ⟨some source, [], []⟩ := by
  simp only [transform, parsed, Module.splice_quiet quiet, bind, Except.bind]
  rfl

theorem Module.parse_nil : Module.parse [] = .ok ⟨[]⟩ := by
  have shape : ∀ read : Except SourceFault Module, read.toOption.any (·.body.isEmpty) = true → read = .ok ⟨[]⟩ := by
    rintro (f | m) empty
    · cases empty
    · cases m
      exact congrArg (Except.ok ∘ Module.mk) (List.isEmpty_iff.mp empty)
  exact shape _ (by decide +kernel)

theorem Module.requests_nil (name : Text) : (Module.mk []).requests name = [] :=
  List.mergeSort_nil

/-- A module with a docstring, an import from the future, a record with a further decorator and another
class. -/
def Module.sample : Module where
  body :=
    [.simple .start (.expression (Emission.str "Models.")),
      .simple .start (.importFrom (some "__future__") 0 [⟨"annotations", none⟩]),
      .classDef .start "P" [] [] [⟨.start, .name "final"⟩, ⟨.start, .name "derive_builder"⟩]
        [.simple .start (.annotated (.name "x") .start true (.name "int") none)],
      .classDef .start "Q" [] [] [] [.simple .start .pass]]

end FluentRecords
