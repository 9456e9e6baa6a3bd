import FluentRecords.Record.Classification
import FluentRecords.Proofs.Syntax.Places

/-!
What the optional wrapper is taken off. Only the wrapper's bare name around a single type counts, and what stays is
that type itself: a wrapper inside it is part of it. Between the brackets a type is written as it is alone, so that the
text of the whole is the text of the rest with the wrapper put around it.
-/

namespace FluentRecords

namespace Expr

/-- The bare name of a wrapper around one type, which is neither a tuple nor a slice. -/
structure Wrapped (w : Text) (e index : Expr) : Prop where
  shape : e = .subscript (.name w) index
  noTuple : ∀ elems, index ≠ .tuple elems
  noSlice : ∀ lower upper step, index ≠ .slice lower upper step

variable {w : Text} {e index : Expr}

theorem unwrap?_eq_some_iff : e.unwrap? w = some index ↔ Wrapped w e index := by
  constructor
  · intro found
    unfold unwrap? at found
    split at found
    · split at found
      · rename_i same
        subst same
        split at found
        · cases found
        · cases found
        · rename_i noTuple noSlice
          cases found
          exact ⟨rfl, noTuple, noSlice⟩
      · cases found
    · cases found
  · rintro ⟨rfl, noTuple, noSlice⟩
    rw [unwrap?, if_pos rfl]
    · exact noTuple
    · exact noSlice

theorem classify_of_wrapped (wrapped : Wrapped w e index) : e.classify w = ⟨.optional, index⟩ := by
  rw [classify, unwrap?_eq_some_iff.mpr wrapped]

theorem classify_of_not_wrapped (bare : ¬∃ index, Wrapped w e index) : e.classify w = ⟨.required, e⟩ := by
  have absent : e.unwrap? w = none := by
    refine Option.eq_none_iff_forall_ne_some.mpr fun index found => ?_
    exact bare ⟨index, unwrap?_eq_some_iff.mp found⟩
  rw [classify, absent]

/-- A type between the brackets of a wrapper needs no other parentheses than alone, wherever the whole stands. -/
theorem Wrapped.render (wrapped : Wrapped w e index) (avoid : Bool) (required : Strength) :
    e.render avoid required = (index.render avoid .test).map fun t => w ++ "[" ++ t ++ "]" := by
  obtain ⟨rfl, noTuple, -⟩ := wrapped
  rw [render_subscript fun first rest => noTuple (first :: rest), Expr.render]
  cases index.render avoid .test <;> rfl

/-- Exactly one layer is taken off, and it is taken off verbatim. A type is optional exactly if it is the wrapper
around one type. That type is then the effective one, and the text of the whole, if there is one, is its text in the
brackets of the wrapper; any other type is required, and stays whole. -/
theorem classify_verbatim (w : Text) (e : Expr) :
    ((e.classify w).kind = .optional ↔ ∃ index, Wrapped w e index) ∧
      (∀ index, Wrapped w e index → (e.classify w).effective = index ∧
        e.text = (e.classify w).effective.text.map fun t => w ++ "[" ++ t ++ "]") ∧
      ((¬∃ index, Wrapped w e index) → e.classify w = ⟨.required, e⟩) := by
  refine ⟨⟨fun optional => ?_, ?_⟩, fun index wrapped => ?_, classify_of_not_wrapped⟩
  · refine Classical.byContradiction fun bare => ?_
    rw [classify_of_not_wrapped bare] at optional
    cases optional
  · rintro ⟨index, wrapped⟩
    rw [classify_of_wrapped wrapped]
  · rw [classify_of_wrapped wrapped]
    exact ⟨rfl, wrapped.render false .test⟩

/-- Of a wrapper in a wrapper, the inner one stays. -/
theorem classify_verbatim_nested :
    ((subscript (.name "Optional") (.subscript (.name "Optional") (.name "int"))).classify "Optional").effective =
        .subscript (.name "Optional") (.name "int") ∧
      (subscript (.name "Optional") (.subscript (.name "Optional") (.name "int"))).text =
        .ok "Optional[Optional[int]]" :=
  (classify_verbatim "Optional" _).2.1 _ ⟨rfl, fun _ => nofun, fun _ _ _ => nofun⟩

end Expr

end FluentRecords
