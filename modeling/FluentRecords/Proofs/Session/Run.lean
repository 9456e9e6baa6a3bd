import FluentRecords.Session.Step
import Mathlib.Data.List.Basic

/-!
Runs of evaluations. An evaluation either yields a result or fails, and in both cases leaves builders
behind; one that is made of others goes on where the first of them stopped.
-/

namespace FluentRecords

/-- An evaluation yields a result. -/
def Yields {α : Type} (r : Run α) (before : Heap) (a : α) (after : Heap) : Prop :=
  r.run before = (.ok a, after)

/-- An evaluation fails. -/
def Fails {α : Type} (r : Run α) (before : Heap) (f : EvalFault) (after : Heap) : Prop :=
  r.run before = (.error f, after)

variable {α β : Type} {x : Run α} {k : α → Run β} {before between after : Heap} {a : α} {b : β} {f : EvalFault}

theorem Yields.pure : Yields (pure a) before a before :=
  rfl

theorem Fails.throw : Fails (throw f : Run α) before f before :=
  rfl

theorem run_bind (x : Run α) (k : α → Run β) (before : Heap) :
    (x >>= k).run before = match x.run before with
      | (.ok a, between) => (k a).run between
      | (.error f, after) => (.error f, after) := by
  unfold ExceptT.run
  simp only [Bind.bind, ExceptT.bind, ExceptT.mk, StateT.bind]
  cases x before with
  | mk result between => cases result <;> rfl

theorem Yields.bind (first : Yields x before a between) (next : Yields (k a) between b after) :
    Yields (x >>= k) before b after := by
  rw [Yields] at first
  rw [Yields, run_bind, first]
  exact next

theorem Yields.bind_fails (first : Yields x before a between) (next : Fails (k a) between f after) :
    Fails (x >>= k) before f after := by
  rw [Yields] at first
  rw [Fails, run_bind, first]
  exact next

theorem Fails.bind (first : Fails x before f after) : Fails (x >>= k) before f after := by
  rw [Fails] at first
  rw [Fails, run_bind, first]

end FluentRecords
