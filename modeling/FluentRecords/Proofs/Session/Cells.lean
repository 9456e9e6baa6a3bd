import FluentRecords.Session.Step
import Mathlib.Data.List.Basic

/-!
Cells of builders. A cell that was filled holds what was put into it last, and filling it leaves every
other cell of every builder alone.
-/

namespace FluentRecords

theorem Cells.get?_put (a a' : Text) (d : Datum) (cells : Cells) :
    (Cells.put a d cells).get? a' = if a' = a then some d else cells.get? a' := by
  induction cells with
  | nil =>
    by_cases same : a' = a
    · subst a'
      simp [Cells.put, Cells.get?]
    · have other : (a == a') = false := by simpa using Ne.symm same
      simp [Cells.put, Cells.get?, same, other]
  | cons c rest ih =>
    obtain ⟨key, old⟩ := c
    by_cases here : key = a
    · subst key
      by_cases same : a' = a
      · subst a'
        simp [Cells.put, Cells.get?]
      · have other : (a == a') = false := by simpa using Ne.symm same
        simp [Cells.put, Cells.get?, same, other]
    · by_cases found : key = a'
      · subst key
        simp [Cells.put, Cells.get?, here]
      · have other : (key == a') = false := by simpa using found
        simp only [Cells.get?, Cells.put, here, if_false, List.find?_cons, other] at ih ⊢
        exact ih

/-- The content of a cell of a builder. -/
def cellOf (heap : Heap) (id : Nat) (a : Text) : Option Datum :=
  (heap.getD id []).get? a

theorem cellOf_modify {heap : Heap} {id : Nat} (inside : id < heap.length) (id' : Nat) (a a' : Text)
    (d : Datum) :
    cellOf (heap.modify id (Cells.put a d)) id' a' =
      if id' = id ∧ a' = a then some d else cellOf heap id' a' := by
  unfold cellOf
  rw [List.getD_eq_getElem?_getD, List.getD_eq_getElem?_getD, List.getElem?_modify]
  by_cases same : id = id'
  · subst id'
    rw [List.getElem?_eq_getElem inside]
    simp [Cells.get?_put]
  · simp [same, Ne.symm same]

theorem cellOf_append {heap : Heap} {id : Nat} (inside : id < heap.length) (more : Heap) (a : Text) :
    cellOf (heap ++ more) id a = cellOf heap id a := by
  rw [cellOf, cellOf, List.getD_eq_getElem?_getD, List.getD_eq_getElem?_getD, List.getElem?_append_left inside]

/-- What there was of builders is still there, cell by cell. -/
structure Keeps (before after : Heap) : Prop where
  length : before.length ≤ after.length
  cells : ∀ id < before.length, ∀ a, cellOf after id a = cellOf before id a

theorem Keeps.refl (heap : Heap) : Keeps heap heap :=
  ⟨Nat.le_refl _, fun _ _ _ => rfl⟩

theorem Keeps.trans {first second third : Heap} (left : Keeps first second) (right : Keeps second third) :
    Keeps first third where
  length := Nat.le_trans left.length right.length
  cells id inside a := (right.cells id (Nat.lt_of_lt_of_le inside left.length) a).trans (left.cells id inside a)

theorem Keeps.append (heap more : Heap) : Keeps heap (heap ++ more) where
  length := by simp
  cells _ inside a := cellOf_append inside more a

/-- A builder has the same cells. -/
def Alike (id : Nat) (before after : Heap) : Prop :=
  ∀ a, cellOf after id a = cellOf before id a

theorem Alike.refl (id : Nat) (heap : Heap) : Alike id heap heap :=
  fun _ => rfl

theorem Keeps.alike {before after : Heap} (keeps : Keeps before after) {id : Nat} (inside : id < before.length) :
    Alike id before after :=
  keeps.cells id inside

/-- What there was of all builders but one is still there. -/
structure KeepsOthers (id : Nat) (before after : Heap) : Prop where
  length : before.length ≤ after.length
  cells : ∀ other < before.length, other ≠ id → ∀ a, cellOf after other a = cellOf before other a

theorem Keeps.keepsOthers {before after : Heap} (keeps : Keeps before after) (id : Nat) :
    KeepsOthers id before after :=
  ⟨keeps.length, fun other inside _ => keeps.cells other inside⟩

theorem KeepsOthers.trans {id : Nat} {first second third : Heap} (left : KeepsOthers id first second)
    (right : KeepsOthers id second third) : KeepsOthers id first third where
  length := Nat.le_trans left.length right.length
  cells other inside apart a :=
    (right.cells other (Nat.lt_of_lt_of_le inside left.length) apart a).trans (left.cells other inside apart a)

theorem KeepsOthers.modify {id : Nat} {heap : Heap} (inside : id < heap.length) (a : Text) (d : Datum) :
    KeepsOthers id heap (heap.modify id (Cells.put a d)) where
  length := Nat.le_of_eq (List.length_modify _ _ _).symm
  cells other _ apart a' := by
    rw [cellOf_modify inside, if_neg fun same => apart same.1]

end FluentRecords
