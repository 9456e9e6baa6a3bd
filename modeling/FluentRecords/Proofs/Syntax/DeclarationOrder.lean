import FluentRecords.Proofs.Syntax.StatementOrder
import Mathlib.Data.List.Basic

/-!
The order of declarations. Every class and every function of a module that was parsed, however deep it is nested,
stands at a reserved word of its own, and these come in the order in which the declarations are written down. So
the places of declarations increase.
-/

namespace FluentRecords

/-- Whether a statement declares a class or a function. -/
def Stmt.isDeclaration (s : Stmt) : Bool :=
  s.declaredName?.isSome

/-- The declarations among statements and inside them. -/
def declarations (ss : List Stmt) : List Stmt :=
  (stmtsWithin ss).filter Stmt.isDeclaration

/-- The places of the declarations in a module that was parsed increase. -/
theorem Module.declarations_of_parse {source : Text} {m : Module} (parsed : Module.parse source = .ok m) :
    (declarations m.body).Pairwise fun s s' => s.place.Before s'.place :=
  (Module.recorded_of_parse parsed).sublist List.filter_sublist |>.imp fun before =>
    before _ (Stmt.place_mem_recorded _) _ (Stmt.place_mem_recorded _)

/-- Whether a statement is a class declaration. -/
def Stmt.isClass (s : Stmt) : Bool :=
  s.classDecl?.isSome

/-- If both of two statements are classes, the second is not in front of the first. -/
def Stmt.ClassesInOrder (s t : Stmt) : Prop :=
  s.isClass = true → t.isClass = true → s.place.AtMost t.place

theorem Stmt.isDeclaration_of_isClass {s : Stmt} (isClass : s.isClass = true) : s.isDeclaration = true := by
  cases s with
  | classDef => rfl
  | _ => cases isClass

theorem sublist_stmtsWithin (ss : List Stmt) : ss.Sublist (stmtsWithin ss) := by
  induction ss with
  | nil => exact .slnil
  | cons s rest ih => exact (ih.trans (List.sublist_append_right _ _)).cons_cons s

/-- The class statements of a module that was parsed stand in the order of their places. -/
theorem Module.ordered_of_parse {source : Text} {m : Module} (parsed : Module.parse source = .ok m) :
    m.body.Pairwise Stmt.ClassesInOrder := by
  have own := (Module.declarations_of_parse parsed).sublist ((sublist_stmtsWithin m.body).filter Stmt.isDeclaration)
  exact (List.pairwise_filter.mp own).imp fun before isClass isClass' =>
    (before (Stmt.isDeclaration_of_isClass isClass) (Stmt.isDeclaration_of_isClass isClass')).atMost

end FluentRecords
