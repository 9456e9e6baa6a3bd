import FluentRecords.Proofs.Loading.Execution

/-!
Calls, step by step. Functions do what is written in them, and of the tools it is the activation decorator alone that
adds builders.
-/

namespace FluentRecords

open Load

variable {own : List Naming} {w₀ : World}

namespace Loading

theorem runs_dataClass (o : DataOptions) (id : Nat) : Keeps (World.Runs own w₀) (DataClass.apply o id) := by
  refine .get_bind fun w runs => ?_
  split
  · have settled : ∀ f : ClassObject → ClassObject, (∀ c, (f c).path = c.path) →
        World.Runs own w₀ (w.modifyClass id f) := fun _ same => runs.modifyClass same
    dsimp only
    split
    · refine .bind (.pure _) fun fields => ?_
      split
      · exact .throw_bind _
      · split
        · exact .throw_bind _
        · split
          · exact .raise _ _
          · exact .bind (.set (settled _ fun _ => rfl)) fun _ => .pure _
    · exact .throw_bind _
  · exact .fail _

theorem runs_makeClass (c : ClassObject) : Keeps (World.Runs own w₀) (makeClass c) := by
  have made : ∀ style, Keeps (World.Runs own w₀) (do
      let id := (← get).classes.length
      modify (·.addClass { c with style := style })
      pure (Thing.cls id)) := by
    intro style
    exact .get_bind fun w _ => .bind (.modify fun _ runs => runs.addClass _) fun _ => .pure _
  unfold makeClass
  split
  · exact .bind (.map _ (keeps_tupleFields _ _)) made
  · exact .bind (.pure _) made

theorem runs_newObject (cls : Nat) (attrs : List (Text × Thing)) : Keeps (World.Runs own w₀) (newObject cls attrs) := by
  refine .get_bind fun w runs => .bind (.set ?_) fun _ => .pure _
  exact runs.elsewhere rfl rfl (List.prefix_refl _) runs.functions

theorem keeps_callForeign {I : World → Prop} (args : List Thing) (keywords : List (Text × Thing)) :
    Keeps I (callForeign args keywords) := by
  unfold callForeign
  split
  · exact .fail _
  · exact .pure _

theorem runs_callDataclass (args : List Thing) (keywords : List (Text × Thing)) :
    Keeps (World.Runs own w₀) (callDataclass args keywords) := by
  unfold callDataclass
  split
  · exact .fail _
  · dsimp only
    split
    · exact runs_dataClass _ _
    · exact .pure _
    · exact .pure _
    · exact keeps_noAttribute _ _

end Loading

namespace Derive

open Loading

/-- A builder is added for a class with the given qualified name. -/
theorem runs_deriveClass (settings : Thing) (id : Nat) : Keeps (World.Runs own w₀) (deriveClass settings id) := by
  refine .get_bind fun w runs => ?_
  split
  · rename_i c present
    have path : w.paths[id]? = some c.path := by
      rw [World.paths, List.getElem?_map, present]
      rfl
    refine .bind (keeps_generate c settings) fun made => .bind (keeps_checkClass made.1) fun _ => ?_
    exact .bind (.set (runs.step (.derived path rfl) (World.functions_addBuilder w _))) fun _ => .pure _
  · exact .fail _

theorem runs_apply (settings t : Thing) : Keeps (World.Runs own w₀) (apply settings t) := by
  refine .get_bind fun w _ => ?_
  split
  · exact runs_deriveClass settings _
  all_goals first | exact .pure _ | exact .throw _

theorem runs_activate (args : List Thing) (keywords : List (Text × Thing)) :
    Keeps (World.Runs own w₀) (activate args keywords) := by
  unfold activate
  dsimp only
  split
  · exact .throw_bind _
  · refine .bind (keeps_effective _ _) fun settings => ?_
    split
    · exact .pure _
    · exact .pure _
    · exact runs_apply settings _

end Derive

namespace Loading

variable {call : Caller} (calls : ∀ f args keywords, Keeps (World.Runs own w₀) (call f args keywords))

include calls

theorem runs_runBody {f : FunctionObject} (known : f.Known own) (names : List (Text × Thing)) :
    Keeps (World.Runs own w₀) (runBody call f names) := by
  refine runs_newFrame_bind names fun frame apart => ?_
  dsimp only
  split
  · rename_i e body
    refine runs_eval calls e (knows_inner apart fun x member outer => known.outward x ?_ outer)
    rwa [body]
  · rename_i ss body
    have inner : Announced own (stmtsWithin ss) := by
      have inside := known.inner
      rwa [body] at inside
    refine .bind (runs_execAll calls _ ss (knows_inner apart fun x member outer => known.outward x ?_ outer) inner) ?_
    · rwa [body]
    · intro flow
      split
      · exact .pure _
      · exact .pure _

theorem runs_callFunction (id : Nat) (args : List Thing) (keywords : List (Text × Thing)) :
    Keeps (World.Runs own w₀) (callFunction call id args keywords) := by
  refine .get_bind fun w runs => ?_
  split
  · rename_i f present
    have known := runs.functions f (List.mem_of_getElem? present)
    exact .bind (.ofEval _) fun names => runs_runBody calls known names
  · exact .fail _

theorem runs_construct (id : Nat) (args : List Thing) (keywords : List (Text × Thing)) :
    Keeps (World.Runs own w₀) (construct call id args keywords) := by
  refine .get_bind fun w _ => ?_
  split
  · refine .bind (runs_newObject id []) fun self => .bind (runs_callFunction calls _ _ _) fun r => ?_
    split
    · exact .pure _
    · exact .pure _
    · exact .get_bind fun _ _ => .fail _
  · refine .bind (runs_newObject id []) fun self => .bind (.ofEval _) fun names => ?_
    dsimp only
    refine .bind (.forM fun e _ => runs_setAttribute self e.1 e.2) fun _ => ?_
    split
    · exact .bind (runs_callFunction calls _ _ _) fun _ => .pure _
    · exact .pure _
  · exact .bind (.ofEval _) fun names => runs_newObject id _
  · split
    · exact runs_newObject id []
    · exact .fail _

theorem runs_callTool (t : Tool) (args : List Thing) (keywords : List (Text × Thing)) :
    Keeps (World.Runs own w₀) (callTool call t args keywords) := by
  unfold callTool
  split
  · exact runs_callDataclass args keywords
  · exact .pure _
  · exact Derive.runs_activate args keywords
  · exact Derive.keeps_settingsOf args keywords
  · exact .get_bind fun _ _ => .pure _
  · exact runs_makeClass _
  · exact .bind (keeps_shown calls _ _) fun _ => .pure _
  · exact .bind (keeps_displayedThing calls _) fun _ => .pure _
  · exact .pure _
  · exact .pure _
  · exact .pure _

theorem runs_faultText (args : List Thing) : Keeps (World.Runs own w₀) (faultText call args) := by
  unfold faultText
  split
  · exact .pure _
  · exact keeps_displayedThing calls _
  · exact keeps_shown calls _ _

omit calls in
/-- Calls do to the names of the module what the functions that are called say. -/
theorem runs_callThing (fuel : Nat) (f : Thing) (args : List Thing) (keywords : List (Text × Thing)) :
    Keeps (World.Runs own w₀) (callThing fuel f args keywords) := by
  induction fuel generalizing f args keywords with
  | zero => exact .fail _
  | succ fuel ih =>
    rw [callThing]
    dsimp only
    split
    · exact runs_callTool ih _ args keywords
    · exact runs_construct ih _ args keywords
    · exact runs_callFunction ih _ args keywords
    · exact runs_callFunction ih _ _ keywords
    · split
      · exact Derive.runs_apply _ _
      · exact .fail _
    · split
      · exact runs_dataClass _ _
      · exact .fail _
    · exact .bind (runs_faultText ih args) fun _ => .pure _
    · exact .raise _ _
    · exact .fail _
    · exact keeps_callForeign args keywords
    · refine .get_bind fun w _ => ?_
      split
      · exact .throw_bind _
      · exact .pure _
    · exact .fail _
    · exact .pure _
    · exact .pure _
    · exact keeps_callForeign args keywords
    · exact .get_bind fun _ _ => .fail _

end Loading

end FluentRecords
