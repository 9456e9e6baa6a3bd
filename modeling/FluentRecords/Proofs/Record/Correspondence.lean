import FluentRecords.Proofs.Record.Acceptance

/-!
Declarations that correspond. Two classes of one name whose annotated assignments have like targets and types, in the
same order, and of which both are enumerations or neither is, are compared step by step: the same fields are read from
both, or the same fault is found. Which expressions are alike and which places correspond is left open.
-/

namespace FluentRecords

/-- Two computations end alike: both fail or both have a result, and what they end with is related. -/
inductive EndAlike {ε α : Type} (E : ε → ε → Prop) (A : α → α → Prop) : Except ε α → Except ε α → Prop
  | error {cause cause' : ε} (related : E cause cause') : EndAlike E A (.error cause) (.error cause')
  | ok {a a' : α} (related : A a a') : EndAlike E A (.ok a) (.ok a')

namespace EndAlike

variable {ε ε' α β : Type} {E : ε → ε → Prop} {E' : ε' → ε' → Prop} {A : α → α → Prop} {B : β → β → Prop}

theorem bind {x x' : Except ε α} {f f' : α → Except ε β} (first : EndAlike E A x x')
    (next : ∀ a a', A a a' → EndAlike E B (f a) (f' a')) : EndAlike E B (x >>= f) (x' >>= f') := by
  cases first with
  | error related => exact .error related
  | ok related => exact next _ _ related

theorem mapError {x x' : Except ε α} {g g' : ε → ε'} (first : EndAlike E A x x')
    (next : ∀ cause cause', E cause cause' → E' (g cause) (g' cause')) :
    EndAlike E' A (x.mapError g) (x'.mapError g') := by
  cases first with
  | error related => exact .error (next _ _ related)
  | ok related => exact .ok related

theorem of_eq {x x' : Except ε α} (same : x = x') (failed : ∀ cause, E cause cause) (result : ∀ a, A a a) :
    EndAlike E A x x' := by
  subst same
  cases x with
  | error cause => exact .error (failed cause)
  | ok a => exact .ok (result a)

end EndAlike

/-- Related entries are taken to the same. -/
theorem map_eq_of_forall₂ {α β : Type} {R : α → α → Prop} {f g : α → β} {xs ys : List α}
    (related : List.Forall₂ R xs ys) (same : ∀ x y, R x y → f x = g y) : xs.map f = ys.map g := by
  induction related with
  | nil => rfl
  | cons first _ ih => rw [List.map_cons, List.map_cons, same _ _ first, ih]

theorem isEmpty_eq_of_forall₂ {α : Type} {R : α → α → Prop} {xs ys : List α} (related : List.Forall₂ R xs ys) :
    xs.isEmpty = ys.isEmpty := by
  cases related <;> rfl

/-- Related entries are checked alike. -/
theorem forM_eq_of_forall₂ {ε α : Type} {R : α → α → Prop} {f g : α → Except ε Unit} {xs ys : List α}
    (related : List.Forall₂ R xs ys) (same : ∀ x y, R x y → f x = g y) : xs.forM f = ys.forM g := by
  induction related with
  | nil => rfl
  | @cons x y xs ys first _ ih =>
    change (f x >>= fun _ => xs.forM f) = (g y >>= fun _ => ys.forM g)
    rw [same x y first, ih]

/-- The first entries that pass tests are related, if related entries pass them alike. -/
theorem find?_of_forall₂ {α : Type} {R : α → α → Prop} {p q : α → Bool} {xs ys : List α}
    (related : List.Forall₂ R xs ys) (same : ∀ x y, R x y → p x = q y) :
    Option.Rel R (xs.find? p) (ys.find? q) := by
  induction related with
  | nil => exact .none
  | @cons x y _ _ first _ ih =>
    rw [List.find?_cons, List.find?_cons, ← same x y first]
    cases p x with
    | true => exact .some first
    | false => exact ih

/-- A likeness of expressions that keeps names and marking annotations apart from others. -/
structure Expr.Likeness (E : Expr → Expr → Prop) : Prop where
  name : ∀ e e' n, E e e' → (e = .name n ↔ e' = .name n)
  marks : ∀ e e', E e e' → (e.Marks ↔ e'.Marks)

variable {E : Expr → Expr → Prop} {R : Pos → Pos → Prop}

/-- Expressions are alike if they come to the same when something is taken off that names and markers do without. -/
theorem Expr.Likeness.of_eq {f : Expr → Expr} (same : ∀ e e', E e e' → f e = f e')
    (names : ∀ e n, f e = .name n ↔ e = .name n) (markers : ∀ e, (f e).isMarker = e.isMarker) : Likeness E where
  name e e' n alike := by rw [← names e, same e e' alike, names]
  marks e e' alike := by rw [← isMarker_iff, ← isMarker_iff, ← markers, same e e' alike, markers]

section

variable (E : Expr → Expr → Prop) (R : Pos → Pos → Prop)

/-- Annotated assignments of like targets and types, at places that correspond. -/
structure FieldDecl.Same (d d' : FieldDecl) : Prop where
  target : E d.target d'.target
  type : E d.type d'.type
  place : R d.targetAt d'.targetAt

/-- Fields of the same name and of like types. -/
structure Field.Same (f f' : Field) : Prop where
  name : f.name = f'.name
  declared : E f.declared f'.declared

/-- The same fields, with names at places that correspond. -/
structure PlacedField.Same (p p' : PlacedField) : Prop where
  field : p.field.Same E p'.field
  place : R p.nameAt p'.nameAt

/-- The same cause, but for a like target and for the line of an earlier declaration. -/
inductive ShapeCause.Same : ShapeCause → ShapeCause → Prop
  | same (cause : ShapeCause) : Same cause cause
  | unnamedField (record : Text) {target target' : Expr} (same : E target target') :
    Same (.unnamedField record target) (.unnamedField record target')
  | repeatedField (record field : Text) {p p' : Pos} (corresponding : R p p') :
    Same (.repeatedField record field p.line) (.repeatedField record field p'.line)

/-- The same fault, at places that correspond. -/
structure ShapeFault.Same (f f' : ShapeFault) : Prop where
  cause : f.cause.Same E R f'.cause
  place : R f.place f'.place

/-- Records of one name and of the same fields. -/
structure Record.Same (r r' : Record) : Prop where
  name : r.name = r'.name
  fields : List.Forall₂ (Field.Same E) r.fields r'.fields

/-- Classes of one name at places that correspond, with the same annotated assignments one after the other; both are
enumerations or neither is. -/
structure ClassDecl.Same (c c' : ClassDecl) : Prop where
  name : c.name = c'.name
  enum : c.DerivesEnum ↔ c'.DerivesEnum
  place : R c.place c'.place
  annotations : List.Forall₂ (FieldDecl.Same E R) c.annotations c'.annotations

end

theorem PlacedField.Same.names {before before' : List PlacedField}
    (same : List.Forall₂ (PlacedField.Same E R) before before') :
    before.map PlacedField.name = before'.map PlacedField.name :=
  map_eq_of_forall₂ same fun _ _ related => related.field.name

/-- What is wrong with a further field of a name is the same behind the same fields. -/
theorem fieldCause?_same {before before' : List PlacedField} (record n : Text) (reserved : List Text)
    (same : List.Forall₂ (PlacedField.Same E R) before before') :
    Option.Rel (ShapeCause.Same E R) (fieldCause? record reserved before n)
      (fieldCause? record reserved before' n) := by
  have earlier : Option.Rel (PlacedField.Same E R) (before.find? (·.name == n)) (before'.find? (·.name == n)) := by
    refine find?_of_forall₂ same fun p p' related => ?_
    rw [PlacedField.name, PlacedField.name, related.field.name]
  unfold fieldCause? PlacedField.firstLine?
  split
  · exact .some (.same _)
  · split
    · exact .some (.same _)
    · generalize before.find? (·.name == n) = first at earlier
      generalize before'.find? (·.name == n) = first' at earlier
      cases earlier with
      | none => exact .none
      | some related => exact .some (.repeatedField record n related.place)

namespace FieldDecl

variable {d d' : FieldDecl}

theorem Same.name? (like : Expr.Likeness E) (same : d.Same E R d') : d.name? = d'.name? := by
  refine Option.ext fun n => ?_
  rw [name?_eq_some, name?_eq_some, like.name _ _ n same.target]

theorem Same.cause? (like : Expr.Likeness E) {before before' : List PlacedField} (record : Text)
    (reserved : List Text) (same : d.Same E R d')
    (earlier : List.Forall₂ (PlacedField.Same E R) before before') :
    Option.Rel (ShapeCause.Same E R) (d.cause? record reserved before) (d'.cause? record reserved before') := by
  unfold FieldDecl.cause?
  rw [← same.name? like]
  cases d.name? with
  | none => exact .some (.unnamedField record same.target)
  | some n =>
    by_cases marked : d.type.Marks
    · simp only [marked, (like.marks _ _ same.type).mp marked, if_true]
      exact .none
    · simp only [marked, mt (like.marks _ _ same.type).mpr marked, if_false]
      exact fieldCause?_same record n reserved earlier

theorem Same.placed? (like : Expr.Likeness E) (same : d.Same E R d') :
    List.Forall₂ (PlacedField.Same E R) d.placed?.toList d'.placed?.toList := by
  unfold FieldDecl.placed?
  rw [← same.name? like]
  by_cases marked : d.type.Marks
  · simp only [marked, (like.marks _ _ same.type).mp marked, if_true]
    exact .nil
  · simp only [marked, mt (like.marks _ _ same.type).mpr marked, if_false]
    cases d.name? with
    | none => exact .nil
    | some n => exact .cons ⟨⟨rfl, same.type⟩, same.place⟩ .nil

end FieldDecl

/-- One annotation after the other, the same fields are collected or the same fault is found. -/
theorem collectFields_same (like : Expr.Likeness E) {ds ds' : List FieldDecl} {before before' : List PlacedField}
    (record : Text) (reserved : List Text) (declared : List.Forall₂ (FieldDecl.Same E R) ds ds')
    (earlier : List.Forall₂ (PlacedField.Same E R) before before') :
    EndAlike (ShapeFault.Same E R) (List.Forall₂ (PlacedField.Same E R)) (collectFields record reserved before ds)
      (collectFields record reserved before' ds') := by
  induction declared generalizing before before' with
  | nil => exact .ok earlier
  | @cons d d' rest rest' same _ ih =>
    have wrong := same.cause? like record reserved earlier
    rw [collectFields_cons, collectFields_cons]
    generalize d.cause? record reserved before = cause at wrong
    generalize d'.cause? record reserved before' = cause' at wrong
    cases wrong with
    | none => exact ih (List.rel_append earlier (same.placed? like))
    | some related => exact .error ⟨related, same.place⟩

theorem storageClash?_same {placed placed' : List PlacedField}
    (same : List.Forall₂ (PlacedField.Same E R) placed placed') :
    Option.Rel (PlacedField.Same E R) (storageClash? placed) (storageClash? placed') := by
  refine find?_of_forall₂ same fun p p' related => ?_
  rw [PlacedField.Same.names same, PlacedField.name, PlacedField.name, related.field.name]

/-- Fields of the same names make a record or none of them does. -/
theorem Record.ofFields_same {fs fs' : List Field} (name : Text) (place place' : Pos)
    (same : List.Forall₂ (Field.Same E) fs fs') :
    EndAlike Eq (Record.Same E) (Record.ofFields name fs place) (Record.ofFields name fs' place') := by
  have names : fs.map Field.name = fs'.map Field.name := map_eq_of_forall₂ same fun _ _ related => related.name
  have empty : fs = [] ↔ fs' = [] := by
    rw [← List.map_eq_nil_iff (f := Field.name), names, List.map_eq_nil_iff]
  unfold Record.ofFields
  by_cases some : fs ≠ []
  · rw [dif_pos some, dif_pos (mt empty.mpr some)]
    split
    · rename_i n repeated
      split
      · rename_i n' repeated'
        rw [names, repeated'] at repeated
        cases repeated
        exact .error rfl
      · rename_i fresh
        rw [names, fresh] at repeated
        cases repeated
    · rename_i fresh
      split
      · rename_i n repeated
        rw [← names, fresh] at repeated
        cases repeated
      · exact .ok ⟨rfl, same⟩
  · rw [dif_neg some, dif_neg (mt (mt empty.mp) some)]
    exact .error rfl

namespace ClassDecl.Same

variable {c c' : ClassDecl}

/-- The same fields are read, or the same fault is found. -/
theorem fields (like : Expr.Likeness E) (same : c.Same E R c') (reserved : List Text) :
    EndAlike (ShapeFault.Same E R) (List.Forall₂ (Field.Same E)) (c.fields reserved) (c'.fields reserved) := by
  have collected := collectFields_same like c.name reserved same.annotations .nil
  unfold ClassDecl.fields
  rw [← same.name]
  refine collected.bind fun placed placed' related => ?_
  have clash := storageClash?_same related
  generalize storageClash? placed = first at clash
  generalize storageClash? placed' = first' at clash
  cases clash with
  | none =>
    refine .ok (List.forall₂_map_left_iff.mpr (List.forall₂_map_right_iff.mpr ?_))
    exact related.imp fun _ _ related => related.field
  | @some p p' related =>
    have name : p.name = p'.name := related.field.name
    dsimp only
    rw [name]
    exact .error ⟨.same _, related.place⟩

/-- The same record is read, or the same fault is found. -/
theorem record (like : Expr.Likeness E) (same : c.Same E R c') (reserved : List Text) :
    EndAlike (ShapeFault.Same E R) (Record.Same E) (c.record reserved) (c'.record reserved) := by
  have enum : c.isEnum = true ↔ c'.isEnum = true := by rw [isEnum_iff, same.enum, isEnum_iff]
  unfold ClassDecl.record
  by_cases isEnum : c.isEnum = true
  · rw [if_pos isEnum, if_pos (enum.mp isEnum), same.name]
    exact .error ⟨.same _, same.place⟩
  · rw [if_neg isEnum, if_neg (mt enum.mpr isEnum), same.name]
    refine (same.fields like reserved).bind fun fs fs' related => ?_
    rw [isEmpty_eq_of_forall₂ related]
    split
    · exact .error ⟨.same _, same.place⟩
    · refine (Record.ofFields_same c'.name c.place c'.place related).mapError fun cause cause' related => ?_
      rw [related]
      exact ⟨.same _, same.place⟩

end ClassDecl.Same

end FluentRecords
