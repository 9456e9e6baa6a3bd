import FluentRecords.Loading.Call
import FluentRecords.Proofs.Loading.Keeping
import FluentRecords.Proofs.Loading.Steps

/-!
Evaluation, step by step. Whatever expressions do to the names of the module is among what is written in it: names
that are bound on the way, and what the functions do that are called.
-/

namespace FluentRecords

namespace FunctionBody

/-- What a function does to names when it is called. -/
def namings : FunctionBody → List Naming
  | .result e => e.namings
  | .statements body => namingsAmong body

/-- The statements in a function. -/
def within : FunctionBody → List Stmt
  | .result _ => []
  | .statements body => stmtsWithin body

end FunctionBody

variable {own : List Naming}

/-- The classes and functions among statements do only known things to names of the module. -/
def Announced (own : List Naming) (ss : List Stmt) : Prop :=
  ∀ s ∈ ss, ∀ x ∈ s.outwardNamings, x ∈ own

/-- A function that does only known things to names of the module. -/
structure FunctionObject.Known (own : List Naming) (f : FunctionObject) : Prop where
  outward : ∀ x ∈ f.body.namings, f.scope.globals.elem x.name = true → x ∈ own
  inner : Announced own f.body.within

/-- In a scope, only known things are done to names of the module. -/
def Scope.Knows (own : List Naming) (sc : Scope) (xs : List Naming) : Prop :=
  ∀ x ∈ xs, sc.home x.name = 0 → x ∈ own

/-- A world to which steps lead from another, with functions that do only known things. -/
structure World.Runs (own : List Naming) (w₀ w : World) : Prop where
  reaches : World.Reaches own w₀ w
  framed : w.frames ≠ []
  functions : ∀ f ∈ w.functions, f.Known own

section Worlds

variable {w₀ w w' : World}

namespace World.Runs

theorem step (runs : World.Runs own w₀ w) (step : World.Step own w w') (functions : w'.functions = w.functions) :
    World.Runs own w₀ w' where
  reaches := .next runs.reaches step
  framed := step.framed runs.framed
  functions := functions ▸ runs.functions

/-- Where neither frames nor derivations change and classes keep their qualified names, no name is touched. -/
theorem elsewhere (runs : World.Runs own w₀ w) (frames : w'.frames = w.frames) (builders : w'.derivations = w.derivations)
    (classes : w.paths <+: w'.paths) (functions : ∀ f ∈ w'.functions, f.Known own) : World.Runs own w₀ w' where
  reaches := .next runs.reaches (.elsewhere (frames ▸ runs.framed) (by rw [globals, frames, globals]) builders classes)
  framed := frames ▸ runs.framed
  functions := functions

/-- Another frame than that of the module has no part in its names; that of the module may change in other ways. -/
theorem modifyFrame (runs : World.Runs own w₀ w) {frame : Nat} {g : NameFrame → NameFrame}
    (names : frame = 0 → ∀ f, (g f).names = f.names) :
    World.Runs own w₀ { w with frames := w.frames.modify frame g } := by
  have same : ({ w with frames := w.frames.modify frame g } : World).globals = w.globals := by
    by_cases inner : frame = 0
    · cases frames : w.frames with
      | nil => exact absurd frames runs.framed
      | cons f rest =>
        subst inner
        exact (names rfl f).trans (by rw [globals, frames])
    · exact World.globals_modify inner
  have step : World.Step own w { w with frames := w.frames.modify frame g } :=
    .elsewhere (World.modify_frames_ne_nil runs.framed frame g) same rfl (List.prefix_refl _)
  exact runs.step step rfl

theorem bind (runs : World.Runs own w₀ w) {sc : Scope} {n : Text} (t : Thing) (knows : sc.Knows own [.bind n]) :
    World.Runs own w₀ (w.bind (sc.home n) n t) := by
  by_cases outer : sc.home n = 0
  · rw [outer]
    exact runs.step (.bound t (knows _ List.mem_cons_self outer)) rfl
  · exact runs.modifyFrame fun home => absurd home outer

theorem unbind (runs : World.Runs own w₀ w) {sc : Scope} {n : Text} (knows : sc.Knows own [.free n]) :
    World.Runs own w₀ (w.unbind (sc.home n) n) := by
  by_cases outer : sc.home n = 0
  · rw [outer]
    exact runs.step (.freed (knows _ List.mem_cons_self outer)) rfl
  · exact runs.modifyFrame fun home => absurd home outer

theorem modifyClass (runs : World.Runs own w₀ w) {id : Nat} {f : ClassObject → ClassObject}
    (same : ∀ c, (f c).path = c.path) : World.Runs own w₀ (w.modifyClass id f) :=
  runs.elsewhere rfl rfl (World.paths_modifyClass same ▸ List.prefix_refl _) runs.functions

theorem addClass (runs : World.Runs own w₀ w) (c : ClassObject) : World.Runs own w₀ (w.addClass c) := by
  refine runs.elsewhere rfl rfl ?_ runs.functions
  rw [paths, paths, World.addClass, List.map_append]
  exact List.prefix_append _ _

end World.Runs

end Worlds

namespace Loading

open Load

variable {w₀ : World} {sc : Scope}

theorem knows_append {xs ys : List Naming} : sc.Knows own (xs ++ ys) ↔ sc.Knows own xs ∧ sc.Knows own ys :=
  List.forall_mem_append

theorem knows_cons {x : Naming} {xs : List Naming} : sc.Knows own (x :: xs) ↔ sc.Knows own [x] ∧ sc.Knows own xs :=
  @knows_append own sc [x] xs

theorem runs_define {n : Text} (knows : sc.Knows own [.bind n]) (t : Thing) :
    Keeps (World.Runs own w₀) (define sc n t) :=
  .modify fun _ runs => runs.bind t knows

theorem runs_setAttribute (t : Thing) (a : Text) (new : Thing) : Keeps (World.Runs own w₀) (setAttribute t a new) := by
  unfold setAttribute
  split
  · split
    · exact .fail _
    · exact .modify fun _ runs => runs.modifyClass fun _ => rfl
  · exact .modify fun _ runs => runs.elsewhere rfl rfl (List.prefix_refl _) runs.functions
  · exact keeps_noAttribute _ a
  · exact .pure _

theorem runs_makeFunction {body : FunctionBody}
    (outward : ∀ x ∈ body.namings, body.globals.elem x.name = true → x ∈ own) (inner : Announced own body.within)
    (sc : Scope) (name : Text) (ps : Params) (defaults : List (Text × Thing)) :
    Keeps (World.Runs own w₀) (makeFunction sc name ps defaults body) := by
  refine .get_bind fun w runs => .bind (.set ?_) fun _ => .pure _
  refine runs.elsewhere rfl rfl (List.prefix_refl _) ?_
  rw [List.forall_mem_append, List.forall_mem_singleton]
  exact ⟨runs.functions, outward, inner⟩

/-- An expression that is passed over has no effect. -/
theorem keeps_passedOver {I : World → Prop} (e : Expr) :
    Keeps I (if e.acts then Load.fail .unsupported else pure .unseen : Load Thing) := by
  split
  · exact .fail _
  · exact .pure _

variable {call : Caller} (calls : ∀ f args keywords, Keeps (World.Runs own w₀) (call f args keywords))

set_option linter.unusedSectionVars false

include calls

mutual

/-- Evaluation does to the names of the module what is written in the expression, and what its calls do. -/
theorem runs_eval : ∀ e : Expr, sc.Knows own e.namings → Keeps (World.Runs own w₀) (eval call sc e)
  | .name n, _ => by
    rw [eval]
    exact keeps_lookup sc n
  | .constant _, _ => by
    rw [eval]
    exact .pure _
  | .formatted parts, knows => by
    rw [eval]
    exact .bind (runs_evalParts parts knows) fun _ => .pure _
  | .tuple es, knows => by
    rw [eval]
    exact .bind (runs_evalAll es knows) fun _ => .pure _
  | .list es, knows => by
    rw [eval]
    exact .bind (runs_evalAll es knows) fun _ => .pure _
  | .set es, knows => by
    rw [eval]
    exact .bind (runs_evalAll es knows) fun _ => keeps_setOf _
  | .dict items, knows => by
    rw [eval]
    exact .bind (runs_evalItems items knows) fun _ => keeps_mappingOf _
  | .member e a, knows => by
    rw [eval]
    refine .bind (runs_eval e knows) fun t => .bind (keeps_memberOf t a) fun m => ?_
    split
    · exact calls _ _ _
    · exact .pure _
  | .subscript e i, knows => by
    rw [Expr.namings, knows_append] at knows
    rw [eval]
    exact .bind (runs_eval e knows.1) fun _ => .bind (runs_eval i knows.2) fun _ => .pure _
  | .slice lower upper step, knows => by
    rw [Expr.namings, knows_append, knows_append] at knows
    obtain ⟨⟨first, second⟩, third⟩ := knows
    rw [eval]
    refine .bind (runs_evalOption lower first) fun _ => .bind (runs_evalOption upper second) fun _ => ?_
    exact .bind (runs_evalOption step third) fun _ => .pure _
  | .starred e, knows => by
    rw [eval]
    exact runs_eval e knows
  | .call f args keywords, knows => by
    rw [Expr.namings, knows_append, knows_append] at knows
    obtain ⟨⟨callee, positional⟩, named⟩ := knows
    rw [eval]
    refine .bind (runs_eval f callee) fun _ => .bind (runs_evalArgs args positional) fun _ => ?_
    refine .bind (runs_evalKeywords keywords named) fun _ => ?_
    split
    · exact .pure _
    · exact calls _ _ _
  | .unary op e, knows => by
    rw [eval]
    exact .bind (runs_eval e knows) fun _ => .pure _
  | .binary op l r, knows => by
    rw [Expr.namings, knows_append] at knows
    rw [eval]
    exact .bind (runs_eval l knows.1) fun a => .bind (runs_eval r knows.2) fun b => keeps_operate op a b
  | .bool op es, knows => by
    rw [eval]
    exact runs_evalBool op es knows
  | .compare l [.mk op r], knows => by
    rw [Expr.namings, namingsInComparisons, namingsInComparisons, List.append_nil, knows_append] at knows
    rw [eval]
    exact .bind (runs_eval l knows.1) fun a => .bind (runs_eval r knows.2) fun b => keeps_compare op a b
  | .compare l [], _ => keeps_passedOver (.compare l [])
  | .compare l (.mk op r :: c :: more), _ => keeps_passedOver (.compare l (.mk op r :: c :: more))
  | .conditional test body orelse, knows => by
    rw [Expr.namings, knows_append, knows_append] at knows
    obtain ⟨⟨tested, yes⟩, no⟩ := knows
    rw [eval]
    refine .bind (runs_eval test tested) fun t => ?_
    split
    · exact runs_eval body yes
    · exact runs_eval orelse no
  | .lambda ps e, _ => by
    rw [eval]
    -- a function without a name takes no names from the module
    exact runs_makeFunction (fun _ _ outer => by cases outer) (fun _ none => by cases none) sc _ ps _
  | .named target e, knows => by
    cases target with
    | name n =>
      rw [Expr.namings, knows_cons] at knows
      rw [eval]
      exact .bind (runs_eval e knows.2) fun t => .bind (runs_define knows.1 t) fun _ => .pure _
    | _ => exact .fail _
  | .await _, _ => .fail _
  | .yield _, _ => .fail _
  | .yieldFrom _, _ => .fail _
  | .listComp e clauses, _ => keeps_passedOver (.listComp e clauses)
  | .setComp e clauses, _ => keeps_passedOver (.setComp e clauses)
  | .generator e clauses, _ => keeps_passedOver (.generator e clauses)
  | .dictComp k v clauses, _ => keeps_passedOver (.dictComp k v clauses)

theorem runs_evalOption :
    ∀ e : Option Expr, sc.Knows own (namingsOption e) → Keeps (World.Runs own w₀) (evalOption call sc e)
  | none, _ => by
    rw [evalOption]
    exact .pure _
  | some e, knows => by
    rw [evalOption]
    exact .bind (runs_eval e knows) fun _ => .pure _

theorem runs_evalAll : ∀ es : List Expr, sc.Knows own (namingsIn es) → Keeps (World.Runs own w₀) (evalAll call sc es)
  | [], _ => by
    rw [evalAll]
    exact .pure _
  | e :: rest, knows => by
    rw [namingsIn, knows_append] at knows
    rw [evalAll]
    exact .bind (runs_eval e knows.1) fun _ => .bind (runs_evalAll rest knows.2) fun _ => .pure _

theorem runs_evalArgs : ∀ es : List Expr, sc.Knows own (namingsIn es) → Keeps (World.Runs own w₀) (evalArgs call sc es)
  | [], _ => by
    rw [evalArgs]
    exact .pure _
  | e :: rest, knows => by
    rw [namingsIn, knows_append] at knows
    cases e with
    | starred e =>
      rw [evalArgs]
      exact .bind (runs_eval e knows.1) fun _ => .bind (runs_evalArgs rest knows.2) fun _ => .pure _
    | _ =>
      rw [evalArgs]
      · exact .bind (runs_eval _ knows.1) fun _ => .bind (runs_evalArgs rest knows.2) fun _ => .pure _
      · exact fun _ same => by cases same

theorem runs_evalKeywords :
    ∀ ks : List Keyword, sc.Knows own (namingsInKeywords ks) → Keeps (World.Runs own w₀) (evalKeywords call sc ks)
  | [], _ => by
    rw [evalKeywords]
    exact .pure _
  | .mk name _ e :: rest, knows => by
    rw [namingsInKeywords, knows_append] at knows
    rw [evalKeywords]
    refine .bind (runs_eval e knows.1) fun _ => .bind (runs_evalKeywords rest knows.2) fun _ => ?_
    split
    · exact .pure _
    · exact .pure _

theorem runs_evalItems :
    ∀ items : List DictItem, sc.Knows own (namingsInItems items) → Keeps (World.Runs own w₀) (evalItems call sc items)
  | [], _ => by
    rw [evalItems]
    exact .pure _
  | .entry k v :: rest, knows => by
    rw [namingsInItems, knows_append, knows_append] at knows
    obtain ⟨⟨key, value⟩, more⟩ := knows
    rw [evalItems]
    refine .bind (runs_eval k key) fun _ => .bind (runs_eval v value) fun _ => ?_
    exact .bind (runs_evalItems rest more) fun _ => .pure _
  | .unpack e :: rest, knows => by
    rw [namingsInItems, knows_append] at knows
    rw [evalItems]
    exact .bind (runs_eval e knows.1) fun _ => .bind (runs_evalItems rest knows.2) fun _ => .pure _

theorem runs_evalParts :
    ∀ parts : List FormatPart, sc.Knows own (namingsInParts parts) → Keeps (World.Runs own w₀) (evalParts call sc parts)
  | [], _ => by
    rw [evalParts]
    exact .pure _
  | .literal _ :: rest, knows => by
    rw [evalParts]
    exact .bind (runs_evalParts rest knows) fun _ => .pure _
  | .field e conversion :: rest, knows => by
    rw [namingsInParts, knows_append] at knows
    rw [evalParts]
    refine .bind (runs_eval e knows.1) fun t => ?_
    split
    · refine .bind (keeps_shown calls _ t) fun _ => ?_
      exact .bind (runs_evalParts rest knows.2) fun _ => .pure _
    · refine .bind (keeps_displayedThing calls t) fun _ => ?_
      exact .bind (runs_evalParts rest knows.2) fun _ => .pure _
  | .fieldWith _ _ _ :: _, _ => by
    rw [evalParts]
    exact .fail _

theorem runs_evalBool (op : BoolOp) :
    ∀ es : List Expr, sc.Knows own (namingsIn es) → Keeps (World.Runs own w₀) (evalBool call sc op es)
  | [], _ => by
    rw [evalBool]
    exact .pure _
  | [e], knows => by
    rw [namingsIn, namingsIn, List.append_nil] at knows
    rw [evalBool]
    exact runs_eval e knows
  | e :: e' :: rest, knows => by
    rw [namingsIn, knows_append] at knows
    rw [evalBool]
    · refine .bind (runs_eval e knows.1) fun t => ?_
      split
      · exact .pure _
      · exact runs_evalBool op (e' :: rest) knows.2
    · exact fun none => by cases none

end

end Loading

end FluentRecords
