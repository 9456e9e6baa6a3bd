import FluentRecords.Proofs.Record.Acceptance
import FluentRecords.Proofs.Syntax.DeclarationOrder
import FluentRecords.Proofs.Syntax.Nesting
import Mathlib.Data.List.Nodup
import Mathlib.Data.List.Pairwise
import Mathlib.Logic.Relation

/-!
What is detected in a module that was parsed: each class and each function that carries the activation decorator,
at any depth, once, with the first decorator that is one, in the order of the places. It does not matter in which
order the declarations are met.
-/

namespace FluentRecords

/-- A statement stands in a block of another one. -/
inductive Stmt.Holds : Stmt → Stmt → Prop
  | classBody {p n bases keywords ds body s} (member : s ∈ body) : Holds (.classDef p n bases keywords ds body) s
  | functionBody {p isAsync n ps result ds body s} (member : s ∈ body) :
    Holds (.functionDef p isAsync n ps result ds body) s
  | ifBody {p test body other s} (member : s ∈ body) : Holds (.ifElse p test body other) s
  | ifElse {p test body other s} (member : s ∈ other) : Holds (.ifElse p test body other) s
  | forBody {p isAsync target iter body other s} (member : s ∈ body) :
    Holds (.forLoop p isAsync target iter body other) s
  | forElse {p isAsync target iter body other s} (member : s ∈ other) :
    Holds (.forLoop p isAsync target iter body other) s
  | whileBody {p test body other s} (member : s ∈ body) : Holds (.whileLoop p test body other) s
  | whileElse {p test body other s} (member : s ∈ other) : Holds (.whileLoop p test body other) s
  | withBody {p isAsync items body s} (member : s ∈ body) : Holds (.withBlock p isAsync items body) s
  | tryBody {p grouped body hs other final s} (member : s ∈ body) : Holds (.tryBlock p grouped body hs other final) s
  | tryHandler {p grouped body hs other final type n block s} (handler : .mk type n block ∈ hs)
    (member : s ∈ block) : Holds (.tryBlock p grouped body hs other final) s
  | tryElse {p grouped body hs other final s} (member : s ∈ other) : Holds (.tryBlock p grouped body hs other final) s
  | tryFinally {p grouped body hs other final s} (member : s ∈ final) :
    Holds (.tryBlock p grouped body hs other final) s
  | matchCase {p subject cases pattern guard block s} (among : .mk pattern guard block ∈ cases)
    (member : s ∈ block) : Holds (.matchBlock p subject cases) s

/-- A statement stands in a module, at any depth. -/
def Module.Contains (m : Module) (s : Stmt) : Prop :=
  ∃ t ∈ m.body, Relation.ReflTransGen Stmt.Holds t s

/-- A class or a function with its decorators. -/
inductive Stmt.DecoratedWith : Stmt → List Decorator → Prop
  | classDef {p n bases keywords ds body} : DecoratedWith (.classDef p n bases keywords ds body) ds
  | functionDef {p isAsync n ps result ds body} : DecoratedWith (.functionDef p isAsync n ps result ds body) ds

/-- An expression is the activation decorator: it ends in the name of that, or calls what does. -/
def Expr.Activates (activation : Text) (e : Expr) : Prop :=
  e.EndsIn activation ∨ ∃ f args keywords, e = .call f args keywords ∧ f.EndsIn activation

/-- The first of several decorators that is the activation decorator. -/
def Decorator.FirstOf (activation : Text) (ds : List Decorator) (d : Decorator) : Prop :=
  d.expr.Activates activation ∧
    ∃ before after, ds = before ++ d :: after ∧ ∀ e ∈ before, ¬ e.expr.Activates activation

/-- Requests are what is to be found in a module. -/
structure Module.Detects (m : Module) (activation : Text) (rs : List Request) : Prop where
  complete : ∀ s ds, m.Contains s → s.DecoratedWith ds → (∃ d ∈ ds, d.expr.Activates activation) →
    s ∈ rs.map Request.stmt
  sound : ∀ r ∈ rs, m.Contains r.stmt ∧ ∃ ds, r.stmt.DecoratedWith ds ∧ r.decorator.FirstOf activation ds
  once : (rs.map Request.stmt).Nodup
  increasing : rs.Pairwise fun r r' => r.stmt.place.Before r'.stmt.place
  topLevel : ∀ r ∈ rs, r.topLevel = true ↔ r.stmt ∈ m.body

section Containment

/-- A statement holds what stands directly inside it. -/
theorem Stmt.holds_iff {t u : Stmt} : t.Holds u ↔ u ∈ t.inner := by
  constructor
  · intro holds
    cases holds with
    | classBody member | functionBody member | withBody member => exact member
    | ifBody member | forBody member | whileBody member => exact List.mem_append_left _ member
    | ifElse member | forElse member | whileElse member | tryFinally member => exact List.mem_append_right _ member
    | tryBody member => exact List.mem_append_left _ (List.mem_append_left _ (List.mem_append_left _ member))
    | tryHandler handler member =>
      refine List.mem_append_left _ (List.mem_append_left _ (List.mem_append_right _ ?_))
      exact List.mem_flatMap.mpr ⟨_, handler, member⟩
    | tryElse member => exact List.mem_append_left _ (List.mem_append_right _ member)
    | matchCase among member => exact List.mem_flatMap.mpr ⟨_, among, member⟩
  · intro member
    cases t with
    | simple => cases member
    | classDef => exact .classBody member
    | functionDef => exact .functionBody member
    | ifElse => exact (List.mem_append.mp member).elim .ifBody .ifElse
    | forLoop => exact (List.mem_append.mp member).elim .forBody .forElse
    | whileLoop => exact (List.mem_append.mp member).elim .whileBody .whileElse
    | withBlock => exact .withBody member
    | tryBlock _ _ body hs other final =>
      simp only [Stmt.inner, List.mem_append, List.mem_flatMap, or_assoc] at member
      obtain here | ⟨⟨type, n, block⟩, handler, handled⟩ | there | last := member
      · exact .tryBody here
      · exact .tryHandler handler handled
      · exact .tryElse there
      · exact .tryFinally last
    | matchBlock _ _ cs =>
      obtain ⟨⟨pattern, guard, block⟩, among, inside⟩ := List.mem_flatMap.mp member
      exact .matchCase among inside

/-- Walking through statements meets what they hold, at any depth. -/
theorem mem_stmtsWithin_iff {ss : List Stmt} {s : Stmt} :
    s ∈ stmtsWithin ss ↔ ∃ t ∈ ss, Relation.ReflTransGen Stmt.Holds t s := by
  induction ss using stmts_induction with
  | nil => exact iff_of_false List.not_mem_nil fun ⟨_, member, _⟩ => List.not_mem_nil member
  | cons t rest inside others =>
    have here : s ∈ t :: stmtsWithin t.inner ↔ Relation.ReflTransGen Stmt.Holds t s := by
      rw [List.mem_cons, inside, Relation.ReflTransGen.cases_head_iff, eq_comm]
      simp only [Stmt.holds_iff]
    rw [stmtsWithin_cons, ← List.cons_append, List.mem_append, here, others, List.exists_mem_cons_iff]

theorem Module.contains_iff {m : Module} {s : Stmt} : m.Contains s ↔ s ∈ stmtsWithin m.body :=
  mem_stmtsWithin_iff.symm

end Containment

section Annotated

variable {activation : Text}

theorem Expr.isActivation_iff {e : Expr} : e.isActivation activation = true ↔ e.Activates activation := by
  unfold isActivation
  split
  · simp [Activates, EndsIn, lastName?_eq_some]
  · rename_i other
    have called : ¬ ∃ f args keywords, e = .call f args keywords ∧ f.EndsIn activation := by
      rintro ⟨f, args, keywords, same, _⟩
      exact other f args keywords same
    rw [Activates, or_iff_left called, beq_iff_eq, lastName?_eq_some]

theorem Stmt.decoratedWith_iff {s : Stmt} {ds : List Decorator} :
    s.DecoratedWith ds ↔ s.isDeclaration = true ∧ s.decorators = ds := by
  constructor
  · rintro (_ | _)
    · exact ⟨rfl, rfl⟩
    · exact ⟨rfl, rfl⟩
  · rintro ⟨declares, rfl⟩
    cases s with
    | classDef => exact .classDef
    | functionDef => exact .functionDef
    | _ => cases declares

/-- Only declarations are annotated. -/
theorem Stmt.isDeclaration_of_isAnnotated {s : Stmt} (annotated : s.isAnnotated activation = true) :
    s.isDeclaration = true := by
  cases s with
  | classDef => rfl
  | functionDef => rfl
  | _ => cases annotated

theorem Decorator.firstOf_iff {ds : List Decorator} {d : Decorator} :
    d.FirstOf activation ds ↔ ds.find? (·.expr.isActivation activation) = some d := by
  simp [FirstOf, List.find?_eq_some_iff_append, Expr.isActivation_iff, ← Bool.not_eq_true]

end Annotated

namespace Module

variable {source activation : Text} {m : Module}

theorem declarations_nodup (parsed : Module.parse source = .ok m) : (declarations m.body).Nodup :=
  (declarations_of_parse parsed).imp fun {s t} before same => by
    rw [same] at before
    exact t.place.not_before_self before

/-- The requests that the statements of a module make, one after the other, are in increasing order. -/
theorem pairwise_ofTopLevel (parsed : Module.parse source = .ok m) (activation : Text) :
    (m.body.flatMap (Request.ofTopLevel activation)).Pairwise fun r r' => r.stmt.place.Before r'.stmt.place := by
  have among : ((stmtsWithin m.body).filter (Stmt.isAnnotated activation)).Sublist (declarations m.body) :=
    List.monotone_filter_right _ fun _ => Stmt.isDeclaration_of_isAnnotated
  have ordered := (declarations_of_parse parsed).sublist among
  rwa [← map_stmt_flatMap, List.pairwise_map] at ordered

/-- In whatever order requests are met, sorting them by their places puts them in the order of the source. -/
theorem mergeSort_of_perm (parsed : Module.parse source = .ok m) {rs : List Request}
    (met : rs.Perm (m.body.flatMap (Request.ofTopLevel activation))) :
    rs.mergeSort Request.before = m.body.flatMap (Request.ofTopLevel activation) := by
  have increasing := pairwise_ofTopLevel parsed activation
  have places : ((m.body.flatMap (Request.ofTopLevel activation)).map (·.stmt.place)).Nodup :=
    List.pairwise_map.mpr (increasing.imp fun {r r'} before same => by
      rw [same] at before
      exact r'.stmt.place.not_before_self before)
  have same := (List.mergeSort_perm rs Request.before).trans met
  have sorted := List.pairwise_mergeSort Request.before_trans Request.before_total rs
  refine List.Perm.eq_of_pairwise ?_ sorted ?_ same
  · intro r r' member member' first next
    refine List.inj_on_of_nodup_map places (same.mem_iff.mp member) member' ?_
    exact (Request.before_iff_atMost.mp first).antisymm (Request.before_iff_atMost.mp next)
  · exact increasing.imp fun before => Request.before_iff_atMost.mpr before.atMost

theorem requests_of_parse (parsed : Module.parse source = .ok m) (activation : Text) :
    m.requests activation = m.body.flatMap (Request.ofTopLevel activation) :=
  mergeSort_of_perm parsed (List.Perm.refl _)

/-- A declaration inside a statement of a module is no statement of the module itself. -/
theorem not_mem_body_of_within (parsed : Module.parse source = .ok m) {s t : Stmt} (member : s ∈ m.body)
    (inside : t ∈ s.within) (declares : t.isDeclaration = true) : t ∉ m.body := by
  have split : declarations m.body = m.body.flatMap fun u => (u :: u.within).filter Stmt.isDeclaration := by
    rw [declarations, stmtsWithin_eq_flatMap, List.filter_flatMap]
  obtain ⟨each, apart⟩ := List.nodup_flatMap.mp (split ▸ declarations_nodup parsed)
  have here : t ∈ (s :: s.within).filter Stmt.isDeclaration :=
    List.mem_filter.mpr ⟨List.mem_cons_of_mem s inside, declares⟩
  have own : t ∈ (t :: t.within).filter Stmt.isDeclaration := List.mem_filter.mpr ⟨List.mem_cons_self, declares⟩
  intro top
  by_cases same : s = t
  · obtain rfl := same
    have twice := each s member
    rw [List.filter_cons_of_pos declares, List.nodup_cons] at twice
    exact twice.1 (List.mem_filter.mpr ⟨inside, declares⟩)
  · have symm : Std.Symm (Function.onFun List.Disjoint fun u : Stmt => (u :: u.within).filter Stmt.isDeclaration) :=
      ⟨fun _ _ disjoint _ here there => disjoint there here⟩
    exact apart.forall member top same here own

/-- A request of a module is made by a statement of the module itself, or by a declaration inside one. -/
theorem of_mem_flatMap {r : Request} (member : r ∈ m.body.flatMap (Request.ofTopLevel activation)) :
    ∃ s ∈ m.body, (r.stmt = s ∧ r.topLevel = true ∨ r.stmt ∈ s.within ∧ r.topLevel = false) ∧
      r.stmt.decorators.find? (·.expr.isActivation activation) = some r.decorator := by
  obtain ⟨s, top, made⟩ := List.mem_flatMap.mp member
  rcases List.mem_append.mp made with own | inner
  · obtain ⟨same, flag, _, found⟩ := Request.ofStmt?_eq_some (Option.mem_toList.mp own)
    exact ⟨s, top, Or.inl ⟨same, flag⟩, same ▸ found⟩
  · obtain ⟨t, inside, made⟩ := List.mem_filterMap.mp inner
    obtain ⟨same, flag, _, found⟩ := Request.ofStmt?_eq_some made
    exact ⟨s, top, Or.inr ⟨same ▸ inside, flag⟩, same ▸ found⟩

/-- In a module that was parsed, the requests are all that is to be found. -/
theorem requests_detect (parsed : Module.parse source = .ok m) (activation : Text) :
    m.Detects activation (m.requests activation) := by
  have increasing := pairwise_ofTopLevel parsed activation
  have stmts := map_stmt_flatMap activation m
  have annotated : ∀ r ∈ m.body.flatMap (Request.ofTopLevel activation),
      r.stmt ∈ stmtsWithin m.body ∧ r.stmt.isAnnotated activation = true :=
    fun r member => List.mem_filter.mp (stmts ▸ List.mem_map_of_mem member)
  rw [requests_of_parse parsed activation]
  constructor
  case complete =>
    intro s ds contained decorated ⟨d, member, activates⟩
    obtain ⟨_, rfl⟩ := Stmt.decoratedWith_iff.mp decorated
    rw [stmts]
    exact List.mem_filter.mpr ⟨contains_iff.mp contained,
      List.any_eq_true.mpr ⟨d, member, Expr.isActivation_iff.mpr activates⟩⟩
  case sound =>
    intro r member
    obtain ⟨inside, asks⟩ := annotated r member
    obtain ⟨_, _, _, found⟩ := of_mem_flatMap member
    exact ⟨contains_iff.mpr inside, _,
      Stmt.decoratedWith_iff.mpr ⟨Stmt.isDeclaration_of_isAnnotated asks, rfl⟩, Decorator.firstOf_iff.mpr found⟩
  case once =>
    rw [stmts]
    exact (declarations_nodup parsed).sublist
      (List.monotone_filter_right _ fun _ => Stmt.isDeclaration_of_isAnnotated)
  case increasing => exact increasing
  case topLevel =>
    intro r member
    obtain ⟨s, top, ⟨rfl, flag⟩ | ⟨inside, flag⟩, _⟩ := of_mem_flatMap member
    · exact iff_of_true flag top
    · refine iff_of_false (by simp [flag]) (not_mem_body_of_within parsed top inside ?_)
      exact Stmt.isDeclaration_of_isAnnotated (annotated r member).2

/-- A class in a condition, and behind it another class. -/
def nestedSource : Text :=
  "if a:\n @d\n class A: x\n@m.d()\nclass B: y\n"

theorem requests_detect_nested : ∃ m, Module.parse nestedSource = .ok m ∧ m.Detects "d" (m.requests "d") ∧
    (m.requests "d").map Request.topLevel = [false, true] := by
  have fine : ((Module.parse nestedSource).toOption.any fun m =>
      (m.body.flatMap (Request.ofTopLevel "d")).map Request.topLevel == [false, true]) = true := by decide +kernel
  obtain ⟨m, parsed, flags⟩ := exists_of_toOption_any fine
  have listed := requests_of_parse parsed "d"
  exact ⟨m, parsed, requests_detect parsed "d", listed ▸ beq_iff_eq.mp flags⟩

end Module

end FluentRecords
