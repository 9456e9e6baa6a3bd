import FluentRecords.Session.BuilderClass
import Mathlib.Data.List.Basic

/-!
Private names inside a class. A private name is kept under the stem of the class, its name without the
leading underscores, and the name itself; every other name is kept as it is. A slot is a name with an
underscore in front, so two slots meet only where one is private and the other spells its kept form.
-/

namespace FluentRecords.Text

/-- The name of a class without its leading underscores. -/
def stem (cls : Text) : Text :=
  cls.dropWhile (· == 95)

/-- Whether a class keeps a name under another one. -/
def IsMangled (cls n : Text) : Prop :=
  isPrivate n = true ∧ stem cls ≠ []

instance (cls n : Text) : Decidable (IsMangled cls n) :=
  inferInstanceAs (Decidable (_ ∧ _))

theorem mangle_of_isMangled {cls n : Text} (mangled : IsMangled cls n) :
    mangle cls n = 95 :: stem cls ++ n := by
  have nonempty : (cls.dropWhile (· == 95)).isEmpty = false := by
    simpa [stem] using mangled.2
  simp only [mangle, mangled.1, nonempty, stem, Bool.not_false, Bool.and_self, if_true]

theorem mangle_of_not_isMangled {cls n : Text} (plain : ¬ IsMangled cls n) : mangle cls n = n := by
  have not : (isPrivate n && !(cls.dropWhile (· == 95)).isEmpty) = false := by
    rw [Bool.eq_false_iff]
    intro both
    simp only [Bool.and_eq_true, Bool.not_eq_true', List.isEmpty_eq_false_iff] at both
    exact plain both
  simp only [mangle, not, Bool.false_eq_true, if_false]

/-- A name that is not private is kept as it is, whatever the class is called. -/
theorem mangle_of_not_private {cls n : Text} (plain : isPrivate n = false) : mangle cls n = n := by
  apply mangle_of_not_isMangled
  intro mangled
  exact Bool.false_ne_true (plain.symm.trans mangled.1)

theorem stem_ne_underscore {cls rest : Text} : stem cls ≠ 95 :: rest := by
  induction cls with
  | nil => simp [stem]
  | cons c cs ih =>
    by_cases under : c = 95
    · subst c
      simpa only [stem, List.dropWhile_cons, beq_self_eq_true, if_true] using ih
    · have other : (c == 95) = false := by simpa using under
      simp only [stem, List.dropWhile_cons, other, Bool.false_eq_true, if_false]
      intro same
      exact under (List.cons.inj same).1

theorem startsWith_underscores {n : Text} (starts : startsWith [95, 95] n = true) :
    ∃ rest, n = 95 :: 95 :: rest := by
  obtain ⟨rest, same⟩ := List.isPrefixOf_iff_prefix.mp starts
  exact ⟨rest, same.symm⟩

theorem isPrivate_of_not_startsWith {n : Text} (plain : startsWith [95, 95] n = false) :
    isPrivate n = false := by
  simp only [isPrivate, plain, Bool.false_and]

theorem startsWith_of_isPrivate {n : Text} (hidden : isPrivate n = true) :
    startsWith [95, 95] n = true := by
  simp only [isPrivate, Bool.and_eq_true] at hidden
  exact hidden.1

/-- What a private name is kept under begins with one underscore and not with two. -/
theorem kept_not_startsWith {cls n : Text} (mangled : IsMangled cls n) :
    startsWith [95, 95] (95 :: stem cls ++ n) = false := by
  rw [Bool.eq_false_iff]
  intro starts
  obtain ⟨rest, same⟩ := startsWith_underscores starts
  cases head : stem cls with
  | nil => exact mangled.2 head
  | cons c cs =>
    rw [head] at same
    have under : c = 95 := (List.cons.inj (List.cons.inj same).2).1
    exact stem_ne_underscore (head.trans (by rw [under]))

/-- A name with two leading and two trailing underscores is kept as it is, and no other name is kept
under it. -/
theorem mangle_eq_special_iff {cls n special : Text} (starts : startsWith [95, 95] special = true)
    (plain : isPrivate special = false) : mangle cls n = special ↔ n = special := by
  constructor
  · intro same
    by_cases mangled : IsMangled cls n
    · rw [mangle_of_isMangled mangled] at same
      have not := kept_not_startsWith mangled
      rw [same] at not
      exact absurd (starts.symm.trans not) Bool.noConfusion
    · rwa [mangle_of_not_isMangled mangled] at same
  · rintro rfl
    exact mangle_of_not_private plain

/-- Two slots are stored under one attribute only if one of them is private, and the other is named
like its kept form. -/
theorem mangle_slot_eq_iff {cls n k : Text} :
    mangle cls (95 :: n) = mangle cls (95 :: k) ↔
      n = k ∨ IsMangled cls (95 :: n) ∧ k = stem cls ++ 95 :: n ∨
        IsMangled cls (95 :: k) ∧ n = stem cls ++ 95 :: k := by
  have notPrivate : ∀ {m : Text}, IsMangled cls (95 :: m) → ¬ IsMangled cls (95 :: (stem cls ++ 95 :: m)) := by
    intro m mangled again
    have starts := startsWith_of_isPrivate again.1
    have none := kept_not_startsWith mangled
    rw [List.cons_append] at none
    exact Bool.false_ne_true (none.symm.trans starts)
  constructor
  · intro same
    by_cases atN : IsMangled cls (95 :: n) <;> by_cases atK : IsMangled cls (95 :: k)
    · rw [mangle_of_isMangled atN, mangle_of_isMangled atK] at same
      exact Or.inl (List.cons.inj (List.append_cancel_left same)).2
    · rw [mangle_of_isMangled atN, mangle_of_not_isMangled atK] at same
      exact Or.inr (Or.inl ⟨atN, (List.cons.inj same).2.symm⟩)
    · rw [mangle_of_not_isMangled atN, mangle_of_isMangled atK] at same
      exact Or.inr (Or.inr ⟨atK, (List.cons.inj same).2⟩)
    · rw [mangle_of_not_isMangled atN, mangle_of_not_isMangled atK] at same
      exact Or.inl (List.cons.inj same).2
  · rintro (rfl | ⟨atN, rfl⟩ | ⟨atK, rfl⟩)
    · rfl
    · rw [mangle_of_isMangled atN, mangle_of_not_isMangled (notPrivate atN), List.cons_append]
    · rw [mangle_of_isMangled atK, mangle_of_not_isMangled (notPrivate atK), List.cons_append]

end FluentRecords.Text
