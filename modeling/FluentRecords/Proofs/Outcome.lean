import FluentRecords.Breakdown
import Mathlib.Data.List.Forall2

/-!
Computations that may fail. One that is made of others has a result exactly if each of them has.
-/

namespace FluentRecords

theorem bind_eq_ok {ε α β : Type} {x : Except ε α} {f : α → Except ε β} {b : β} :
    x >>= f = .ok b ↔ ∃ a, x = .ok a ∧ f a = .ok b := by
  constructor
  · intro run
    cases x with
    | error cause => cases run
    | ok a => exact ⟨a, rfl, run⟩
  · rintro ⟨a, rfl, run⟩
    exact run

theorem bind_eq_error {ε α β : Type} {x : Except ε α} {f : α → Except ε β} {cause : ε} :
    x >>= f = .error cause ↔ x = .error cause ∨ ∃ a, x = .ok a ∧ f a = .error cause := by
  constructor
  · intro run
    cases x with
    | error first =>
      cases run
      exact Or.inl rfl
    | ok a => exact Or.inr ⟨a, rfl, run⟩
  · rintro (rfl | ⟨a, rfl, run⟩)
    · rfl
    · exact run

theorem mapError_eq_ok {ε ε' α : Type} {g : ε → ε'} {x : Except ε α} {a : α} :
    x.mapError g = .ok a ↔ x = .ok a := by
  constructor
  · intro run
    cases x with
    | error cause => cases run
    | ok b => exact congrArg Except.ok (Except.ok.inj run)
  · rintro rfl
    rfl

theorem mapError_eq_error {ε ε' α : Type} {g : ε → ε'} {x : Except ε α} {cause : ε'} :
    x.mapError g = .error cause ↔ ∃ first, x = .error first ∧ g first = cause := by
  cases x with
  | error first => simp [Except.mapError]
  | ok a => simp [Except.mapError]

/-- A result that passes a test is a result. -/
theorem exists_of_toOption_any {ε α : Type} {x : Except ε α} {p : α → Bool} (passes : x.toOption.any p = true) :
    ∃ a, x = .ok a ∧ p a = true := by
  cases x with
  | error cause => cases passes
  | ok a => exact ⟨a, rfl, passes⟩

theorem Rendering.orBreakdown_eq_ok {α : Type} {r : Except PrintFault α} {a : α} :
    Rendering.orBreakdown r = .ok a ↔ r = .ok a :=
  mapError_eq_ok

/-- A check of several things passes exactly if each of them does. -/
theorem forM_eq_ok {ε α : Type} {f : α → Except ε Unit} {xs : List α} :
    xs.forM f = .ok () ↔ ∀ x ∈ xs, f x = .ok () := by
  induction xs with
  | nil => exact iff_of_true rfl fun _ none => by cases none
  | cons first rest ih =>
    change (f first >>= fun _ => rest.forM f) = _ ↔ _
    rw [bind_eq_ok, List.forall_mem_cons, ← ih]
    constructor
    · rintro ⟨_, here, more⟩
      exact ⟨here, more⟩
    · rintro ⟨here, more⟩
      exact ⟨(), here, more⟩

/-- A traversal completes exactly if it does so entry by entry. -/
theorem mapM_eq_ok {ε α β : Type} {f : α → Except ε β} {xs : List α} {ys : List β} :
    xs.mapM f = .ok ys ↔ List.Forall₂ (fun x y => f x = .ok y) xs ys := by
  induction xs generalizing ys with
  | nil =>
    rw [List.mapM_nil, List.forall₂_nil_left_iff]
    exact ⟨fun run => (Except.ok.inj run).symm, fun none => by rw [none]; rfl⟩
  | cons x rest ih =>
    rw [List.mapM_cons, bind_eq_ok]
    constructor
    · rintro ⟨y, here, run⟩
      obtain ⟨others, more, run⟩ := bind_eq_ok.mp run
      cases run
      exact .cons here (ih.mp more)
    · rintro (_ | ⟨here, more⟩)
      exact ⟨_, here, bind_eq_ok.mpr ⟨_, ih.mpr more, rfl⟩⟩

/-- The first entry without a result decides. -/
theorem mapM_eq_error {ε α β : Type} {f : α → Except ε β} {xs : List α} {cause : ε} :
    xs.mapM f = .error cause ↔
      ∃ before x after, xs = before ++ x :: after ∧ (∀ y ∈ before, ∃ b, f y = .ok b) ∧ f x = .error cause := by
  induction xs with
  | nil =>
    refine iff_of_false (fun run => by cases run) ?_
    rintro ⟨before, x, after, same, _⟩
    exact List.append_ne_nil_of_right_ne_nil before (List.cons_ne_nil x after) same.symm
  | cons first rest ih =>
    rw [List.mapM_cons, bind_eq_error]
    constructor
    · rintro (here | ⟨y, here, run⟩)
      · exact ⟨[], first, rest, rfl, List.forall_mem_nil _, here⟩
      · rcases bind_eq_error.mp run with later | ⟨_, _, last⟩
        · obtain ⟨before, x, after, rfl, results, failed⟩ := ih.mp later
          exact ⟨first :: before, x, after, rfl, List.forall_mem_cons.mpr ⟨⟨y, here⟩, results⟩, failed⟩
        · cases last
    · rintro ⟨_ | ⟨y, before⟩, x, after, same, results, failed⟩
      · cases same
        exact Or.inl failed
      · cases same
        obtain ⟨⟨b, here⟩, others⟩ := List.forall_mem_cons.mp results
        exact Or.inr ⟨b, here, bind_eq_error.mpr (Or.inl (ih.mpr ⟨before, x, after, rfl, others, failed⟩))⟩

/-- A traversal that completes has a result for every entry, and all of them are in its result. -/
theorem mapM_ok_mem {ε α β : Type} {f : α → Except ε β} {xs : List α} {ys : List β}
    (run : xs.mapM f = .ok ys) {x : α} (member : x ∈ xs) : ∃ y ∈ ys, f x = .ok y := by
  have each := mapM_eq_ok.mp run
  clear run
  induction each with
  | nil => cases member
  | cons here _ ih =>
    rcases List.mem_cons.mp member with rfl | later
    · exact ⟨_, List.mem_cons_self, here⟩
    · obtain ⟨y, inside, found⟩ := ih later
      exact ⟨y, List.mem_cons_of_mem _ inside, found⟩

end FluentRecords
