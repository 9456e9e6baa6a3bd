import FluentRecords.Proofs.Activation.Requests
import Mathlib.Data.List.Nodup
import Mathlib.Data.List.Pairwise

/-!
How statements are nested. Walking through statements meets each of them and then what stands directly inside, level
by level. So a statement stands together with all that is inside it, and where no statement is met twice, each of them
has one place in the tree.
-/

namespace FluentRecords

theorem handlersWithin_eq (hs : List Handler) :
    handlersWithin hs = stmtsWithin (hs.flatMap fun | .mk _ _ body => body) := by
  induction hs with
  | nil => rfl
  | cons h rest ih =>
    obtain ⟨type, n, body⟩ := h
    rw [handlersWithin, ih, List.flatMap_cons, stmtsWithin_append]

theorem casesWithin_eq (cs : List MatchCase) :
    casesWithin cs = stmtsWithin (cs.flatMap fun | .mk _ _ body => body) := by
  induction cs with
  | nil => rfl
  | cons c rest ih =>
    obtain ⟨pattern, guard, body⟩ := c
    rw [casesWithin, ih, List.flatMap_cons, stmtsWithin_append]

/-- What is inside a statement is what stands directly inside, and what is inside that. -/
theorem Stmt.within_eq (s : Stmt) : s.within = stmtsWithin s.inner := by
  cases s with
  | simple => rfl
  | classDef => rfl
  | functionDef => rfl
  | ifElse => exact (stmtsWithin_append _ _).symm
  | forLoop => exact (stmtsWithin_append _ _).symm
  | whileLoop => exact (stmtsWithin_append _ _).symm
  | withBlock => rfl
  | tryBlock _ _ body hs orelse final =>
    have blocks : stmtsWithin (body ++ (hs.flatMap fun | .mk _ _ b => b) ++ orelse ++ final) =
        stmtsWithin body ++ handlersWithin hs ++ stmtsWithin orelse ++ stmtsWithin final := by
      rw [stmtsWithin_append, stmtsWithin_append, stmtsWithin_append, handlersWithin_eq]
    exact blocks.symm
  | matchBlock => exact casesWithin_eq _

theorem stmtsWithin_cons (s : Stmt) (rest : List Stmt) :
    stmtsWithin (s :: rest) = s :: (stmtsWithin s.inner ++ stmtsWithin rest) := by
  rw [stmtsWithin, s.within_eq, List.cons_append]

theorem stmtsWithin_single (s : Stmt) : stmtsWithin [s] = s :: stmtsWithin s.inner := by
  rw [stmtsWithin_cons, stmtsWithin, List.append_nil]

/-- Statements are built up from those inside their first one and from the others. -/
theorem stmts_induction {holds : List Stmt → Prop} (nil : holds [])
    (cons : ∀ s rest, holds s.inner → holds rest → holds (s :: rest)) : ∀ ss, holds ss
  | [] => nil
  | s :: rest => cons s rest (stmts_induction nil cons s.inner) (stmts_induction nil cons rest)
termination_by ss => (stmtsWithin ss).length
decreasing_by
  all_goals
    rw [stmtsWithin_cons, List.length_cons, List.length_append]
    omega

/-- A statement is followed by all that is inside it. -/
theorem infix_stmtsWithin {s : Stmt} (ss : List Stmt) (member : s ∈ stmtsWithin ss) :
    s :: s.within <:+: stmtsWithin ss := by
  induction ss using stmts_induction with
  | nil => cases member
  | cons t rest inside others =>
    rw [stmtsWithin_cons] at member ⊢
    rcases List.mem_cons.mp member with rfl | member
    · rw [Stmt.within_eq]
      exact (List.prefix_append (s :: stmtsWithin s.inner) _).isInfix
    · refine List.infix_cons ?_
      rcases List.mem_append.mp member with inner | later
      · exact (inside inner).trans (List.infix_append' [] _ _)
      · exact (others later).trans (List.suffix_append _ _).isInfix

/-- Walking through statements meets them, and what stands directly inside the statements that are met. -/
theorem stmtsWithin_perm (ss : List Stmt) : (stmtsWithin ss).Perm (ss ++ (stmtsWithin ss).flatMap Stmt.inner) := by
  induction ss using stmts_induction with
  | nil => exact .nil
  | cons s rest inside others =>
    rw [stmtsWithin_cons, List.flatMap_cons, List.flatMap_append, List.cons_append]
    refine List.Perm.cons s ((inside.append others).trans ?_)
    rw [List.append_assoc]
    exact ((List.perm_append_comm_assoc _ rest _).append_left s.inner).trans (List.perm_append_comm_assoc _ rest _)

/-- What is inside a statement stands directly inside it, or inside a statement that does. -/
theorem exists_inner_of_mem_within {s t : Stmt} (member : t ∈ s.within) : ∃ u ∈ s :: s.within, t ∈ u.inner := by
  rw [s.within_eq] at member ⊢
  rcases List.mem_append.mp ((stmtsWithin_perm s.inner).mem_iff.mp member) with direct | deeper
  · exact ⟨s, List.mem_cons_self, direct⟩
  · obtain ⟨u, inside, direct⟩ := List.mem_flatMap.mp deeper
    exact ⟨u, List.mem_cons_of_mem s inside, direct⟩

/-- Where no statement is met twice, no statement stands directly inside two of them. -/
theorem eq_of_mem_inner {ss : List Stmt} (nodup : (stmtsWithin ss).Nodup) {s t u : Stmt} (first : s ∈ stmtsWithin ss)
    (second : t ∈ stmtsWithin ss) (here : u ∈ s.inner) (there : u ∈ t.inner) : s = t := by
  have apart := (List.nodup_append'.mp ((stmtsWithin_perm ss).nodup_iff.mp nodup)).2.1
  have symm : Std.Symm (Function.onFun List.Disjoint Stmt.inner) := ⟨fun _ _ disjoint _ here there => disjoint there here⟩
  by_contra different
  exact (List.nodup_flatMap.mp apart).2.forall first second different here there

end FluentRecords
