import FluentRecords.Activation.Request
import FluentRecords.Proofs.Syntax.TokenOrder
import Mathlib.Data.List.Basic

/-!
The requests of a module: one for each annotated declaration, wherever it stands, in the order of their
places.
-/

namespace FluentRecords

/-- Whether a statement is a declaration that carries the activation decorator. -/
def Stmt.isAnnotated (activation : Text) (s : Stmt) : Bool :=
  s.decorators.any (·.expr.isActivation activation)

theorem Stmt.isAnnotated_eq_false {activation : Text} {s : Stmt} :
    s.isAnnotated activation = false ↔ ∀ d ∈ s.decorators, d.expr.isActivation activation = false := by
  simp only [Stmt.isAnnotated, List.any_eq_false, Bool.not_eq_true]

theorem stmtsWithin_eq_flatMap (ss : List Stmt) : stmtsWithin ss = ss.flatMap fun s => s :: s.within := by
  induction ss with
  | nil => rfl
  | cons s rest ih => rw [stmtsWithin, ih, List.flatMap_cons]

theorem stmtsWithin_append (ss rest : List Stmt) :
    stmtsWithin (ss ++ rest) = stmtsWithin ss ++ stmtsWithin rest := by
  rw [stmtsWithin_eq_flatMap, stmtsWithin_eq_flatMap, stmtsWithin_eq_flatMap, List.flatMap_append]

namespace Request

variable {activation : Text} {topLevel : Bool} {s : Stmt} {r : Request}

theorem ofStmt?_eq_some (requested : ofStmt? activation topLevel s = some r) :
    r.stmt = s ∧ r.topLevel = topLevel ∧ s.declaredName? = some r.name ∧
      s.decorators.find? (·.expr.isActivation activation) = some r.decorator := by
  cases named : s.declaredName? with
  | none => simp [ofStmt?, named] at requested
  | some name =>
    cases found : s.decorators.find? (·.expr.isActivation activation) with
    | none => simp [ofStmt?, named, found] at requested
    | some d =>
      simp only [ofStmt?, named, found, Option.bind_eq_bind, Option.bind_some,
        Option.some.injEq] at requested
      subst requested
      exact ⟨rfl, rfl, rfl, rfl⟩

/-- Exactly the annotated declarations make a request. -/
theorem isSome_ofStmt? (activation : Text) (topLevel : Bool) (s : Stmt) :
    (ofStmt? activation topLevel s).isSome = s.isAnnotated activation := by
  have search : ∀ name, s.declaredName? = some name →
      (ofStmt? activation topLevel s).isSome = s.isAnnotated activation := by
    intro name named
    rw [Stmt.isAnnotated, ← List.isSome_find?]
    cases found : s.decorators.find? (·.expr.isActivation activation) with
    | none => simp [ofStmt?, named, found]
    | some d => simp [ofStmt?, named, found]
  cases s with
  | classDef place name bases keywords decorators body => exact search name rfl
  | functionDef place isAsync name params returns decorators body => exact search name rfl
  | _ => rfl

/-- A statement without a request has no activation decorator. -/
theorem ofStmt?_eq_none (none : ofStmt? activation topLevel s = none) :
    ∀ d ∈ s.decorators, d.expr.isActivation activation = false := by
  rw [← Stmt.isAnnotated_eq_false, ← isSome_ofStmt? activation topLevel, none]
  rfl

theorem map_stmt_filterMap (activation : Text) (topLevel : Bool) (ss : List Stmt) :
    (ss.filterMap (ofStmt? activation topLevel)).map stmt = ss.filter (Stmt.isAnnotated activation) := by
  induction ss with
  | nil => rfl
  | cons s rest ih =>
    have asked := isSome_ofStmt? activation topLevel s
    cases made : ofStmt? activation topLevel s with
    | none =>
      rw [made] at asked
      rw [List.filterMap_cons_none made, List.filter_cons_of_neg (by simp [← asked]), ih]
    | some r =>
      rw [made] at asked
      rw [List.filterMap_cons_some made, List.filter_cons_of_pos asked.symm, List.map_cons, ih,
        (ofStmt?_eq_some made).1]

theorem map_stmt_ofTopLevel (activation : Text) (s : Stmt) :
    (ofTopLevel activation s).map stmt = (s :: s.within).filter (Stmt.isAnnotated activation) := by
  have own := map_stmt_filterMap activation true [s]
  have inner := map_stmt_filterMap activation false s.within
  have same : [s].filterMap (ofStmt? activation true) = (ofStmt? activation true s).toList := by
    cases made : ofStmt? activation true s with
    | none => simp [made]
    | some r => simp [made]
  rw [ofTopLevel, List.map_append, inner, ← same, own, ← List.filter_append, List.singleton_append]

theorem before_iff_atMost {r s : Request} : r.before s = true ↔ r.stmt.place.AtMost s.stmt.place := by
  simp [before, Pos.AtMost]

theorem before_trans (r s t : Request) (first : r.before s = true) (next : s.before t = true) :
    r.before t = true := by
  simp only [before, Bool.or_eq_true, Bool.and_eq_true, decide_eq_true_eq, beq_iff_eq] at *
  omega

theorem before_total (r s : Request) : (r.before s || s.before r) = true := by
  simp only [before, Bool.or_eq_true, Bool.and_eq_true, decide_eq_true_eq, beq_iff_eq]
  omega

theorem mem_requests {m : Module} (member : s ∈ m.body) (requested : ofStmt? activation true s = some r) :
    r ∈ m.requests activation := by
  refine List.mem_mergeSort.mpr (List.mem_flatMap.mpr ⟨s, member, ?_⟩)
  rw [ofTopLevel, requested]
  exact List.mem_cons_self

end Request

namespace Module

variable {activation : Text} {m : Module}

/-- The annotated declarations in a module make its requests, one after the other. -/
theorem map_stmt_flatMap (activation : Text) (m : Module) :
    (m.body.flatMap (Request.ofTopLevel activation)).map Request.stmt =
      (stmtsWithin m.body).filter (Stmt.isAnnotated activation) := by
  simp only [stmtsWithin_eq_flatMap, List.map_flatMap, List.filter_flatMap, Request.map_stmt_ofTopLevel]

/-- The requests of a module are made by the annotated declarations in it, each by one of them. -/
theorem map_stmt_requests (activation : Text) (m : Module) :
    ((m.requests activation).map Request.stmt).Perm
      ((stmtsWithin m.body).filter (Stmt.isAnnotated activation)) := by
  rw [← map_stmt_flatMap]
  exact (List.mergeSort_perm (m.body.flatMap (Request.ofTopLevel activation)) Request.before).map Request.stmt

/-- They stand in the order of their places. -/
theorem requests_pairwise (activation : Text) (m : Module) :
    (m.requests activation).Pairwise fun r s => r.before s = true :=
  List.pairwise_mergeSort Request.before_trans Request.before_total _

theorem requests_eq_nil_iff :
    m.requests activation = [] ↔ ∀ s ∈ stmtsWithin m.body, s.isAnnotated activation = false := by
  have made := map_stmt_requests activation m
  rw [← List.map_eq_nil_iff (f := Request.stmt)]
  constructor
  · intro none s member
    rw [none] at made
    have empty := List.nil_perm.mp made
    exact Bool.eq_false_iff.mpr (List.filter_eq_nil_iff.mp empty s member)
  · intro quiet
    have empty : (stmtsWithin m.body).filter (Stmt.isAnnotated activation) = [] :=
      List.filter_eq_nil_iff.mpr fun s member => Bool.eq_false_iff.mp (quiet s member)
    rw [empty] at made
    exact List.perm_nil.mp made

/-- What is known of every request of a module. -/
theorem of_mem_requests {r : Request} (member : r ∈ m.requests activation) :
    r.stmt.declaredName? = some r.name ∧
      r.stmt.decorators.find? (·.expr.isActivation activation) = some r.decorator := by
  obtain ⟨s, _, made⟩ := List.mem_flatMap.mp (List.mem_mergeSort.mp member)
  rcases List.mem_append.mp made with own | inner
  · obtain ⟨rfl, _, named, found⟩ := Request.ofStmt?_eq_some (Option.mem_toList.mp own)
    exact ⟨named, found⟩
  · obtain ⟨s', _, made⟩ := List.mem_filterMap.mp inner
    obtain ⟨rfl, _, named, found⟩ := Request.ofStmt?_eq_some made
    exact ⟨named, found⟩

end Module

end FluentRecords
