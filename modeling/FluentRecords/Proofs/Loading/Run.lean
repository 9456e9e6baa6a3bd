import FluentRecords.Loading.World
import Mathlib.Data.List.Basic

/-!
Parts of a run of a module that end with a result. One that is made of others does so exactly if each of
them does, one after the other.
-/

namespace FluentRecords

namespace Load

variable {α β : Type} {x : Load α} {k : α → Load β} {w w' w'' : World} {a a' : α} {b : β}

/-- A part of a run gives a result. -/
def Gives (x : Load α) (w : World) (a : α) (w' : World) : Prop :=
  x.run w = (.ok a, w')

theorem Gives.unique (one : x.Gives w a w') (other : x.Gives w a' w'') : a = a' ∧ w' = w'' := by
  rw [Gives, one] at other
  exact ⟨Except.ok.inj (Prod.mk.inj other).1, (Prod.mk.inj other).2⟩

theorem gives_bind : (x >>= k).Gives w b w'' ↔ ∃ a w', x.Gives w a w' ∧ (k a).Gives w' b w'' := by
  unfold Gives ExceptT.run
  simp only [Bind.bind, ExceptT.bind, ExceptT.mk, StateT.bind]
  cases first : x w with
  | mk result between =>
    cases result with
    | error f =>
      constructor
      · intro given
        cases given
      · rintro ⟨_, _, given, _⟩
        cases given
    | ok a =>
      constructor
      · exact fun given => ⟨a, between, rfl, given⟩
      · rintro ⟨_, _, given, next⟩
        cases given
        exact next

theorem gives_pure : (pure a : Load α).Gives w a' w' ↔ a = a' ∧ w = w' := by
  constructor
  · intro given
    cases given
    exact ⟨rfl, rfl⟩
  · rintro ⟨rfl, rfl⟩
    rfl

theorem not_gives_throw {f : LoadFault} : ¬ (throw f : Load α).Gives w a w' :=
  fun given => by cases given

theorem not_gives_fail {f : EvalFault} : ¬ (fail f : Load α).Gives w a w' :=
  not_gives_throw

theorem gives_get : (get : Load World).Gives w w' w'' ↔ w = w' ∧ w = w'' := by
  constructor
  · intro given
    cases given
    exact ⟨rfl, rfl⟩
  · rintro ⟨rfl, rfl⟩
    rfl

theorem gives_set {u : Unit} : (set w' : Load PUnit).Gives w u w'' ↔ w' = w'' := by
  constructor
  · intro given
    cases given
    rfl
  · rintro rfl
    rfl

end Load

end FluentRecords
