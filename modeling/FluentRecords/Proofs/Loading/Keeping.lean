import FluentRecords.Loading.Derivation
import FluentRecords.Loading.Operation
import FluentRecords.Loading.Show
import FluentRecords.Proofs.Loading.Run

/-!
What a part of a run keeps, whether it ends with a result or with a fault: a property of worlds that holds before
it holds after it. One that is made of others keeps what they keep.
-/

namespace FluentRecords

namespace Load

variable {α β : Type} {I : World → Prop} {x : Load α} {k : α → Load β}

/-- A part of a run keeps a property of worlds. -/
def Keeps (I : World → Prop) (x : Load α) : Prop :=
  ∀ w, I w → I (x.run w).2

theorem Keeps.pure (a : α) : Keeps I (pure a : Load α) :=
  fun _ holds => holds

theorem Keeps.throw (f : LoadFault) : Keeps I (throw f : Load α) :=
  fun _ holds => holds

theorem Keeps.fail (f : EvalFault) : Keeps I (fail f : Load α) :=
  fun _ holds => holds

theorem Keeps.raise (kind message : Text) : Keeps I (raise kind message : Load α) :=
  fun _ holds => holds

/-- Nothing comes after a fault. -/
theorem Keeps.throw_bind (f : LoadFault) : Keeps I ((MonadExcept.throw f : Load α) >>= k) :=
  fun _ holds => holds

theorem Keeps.bind (first : Keeps I x) (next : ∀ a, Keeps I (k a)) : Keeps I (x >>= k) := by
  intro w holds
  have between : I (x w).2 := first w holds
  unfold ExceptT.run
  simp only [Bind.bind, ExceptT.bind, ExceptT.mk, StateT.bind]
  rcases outcome : x w with ⟨result, w'⟩
  rw [outcome] at between
  cases result with
  | ok a => exact next a w' between
  | error f => exact between

/-- Only under a condition something comes in front of the rest. -/
theorem Keeps.guarded {condition : Prop} [Decidable condition] {rest : Load β} (first : Keeps I x)
    (next : Keeps I rest) : Keeps I (if condition then x >>= fun _ => rest else rest) := by
  split
  · exact .bind first fun _ => next
  · exact next

theorem Keeps.map (g : α → β) (first : Keeps I x) : Keeps I (g <$> x) := by
  intro w holds
  have between : I (x w).2 := first w holds
  unfold ExceptT.run
  simp only [Functor.map, ExceptT.map, ExceptT.mk, Bind.bind, StateT.bind]
  rcases outcome : x w with ⟨result, w'⟩
  rw [outcome] at between
  cases result with
  | ok a => exact between
  | error f => exact between

/-- What is got is a world that has the property. -/
theorem Keeps.get_bind {k : World → Load β} (next : ∀ w, I w → Keeps I (k w)) : Keeps I (get >>= k) :=
  fun w holds => next w holds w holds

theorem Keeps.set {w : World} (holds : I w) : Keeps I (set w : Load PUnit) :=
  fun _ _ => holds

theorem Keeps.modify {g : World → World} (each : ∀ w, I w → I (g w)) : Keeps I (modify g : Load PUnit) :=
  fun w holds => each w holds

theorem Keeps.tryCatch {handle : LoadFault → Load α} (first : Keeps I x) (caught : ∀ f, Keeps I (handle f)) :
    Keeps I (tryCatch x handle) := by
  intro w holds
  have between : I (x w).2 := first w holds
  unfold ExceptT.run
  simp only [MonadExcept.tryCatch, tryCatchThe, MonadExceptOf.tryCatch, ExceptT.tryCatch, ExceptT.mk, Bind.bind,
    StateT.bind]
  rcases outcome : x w with ⟨result, w'⟩
  rw [outcome] at between
  cases result with
  | ok a => exact between
  | error f => exact caught f w' between

theorem Keeps.forM {f : α → Load PUnit} {as : List α} (each : ∀ a ∈ as, Keeps I (f a)) : Keeps I (as.forM f) := by
  induction as with
  | nil => exact .pure _
  | cons a rest ih =>
    obtain ⟨here, later⟩ := List.forall_mem_cons.mp each
    exact .bind here fun _ => ih later

theorem Keeps.foldlM {f : β → α → Load β} {as : List α} (each : ∀ b, ∀ a ∈ as, Keeps I (f b a)) (b : β) :
    Keeps I (as.foldlM f b) := by
  induction as generalizing b with
  | nil => exact .pure _
  | cons a rest ih =>
    refine .bind (each b a List.mem_cons_self) fun b => ?_
    exact ih (fun b a member => each b a (List.mem_cons_of_mem _ member)) b

theorem Keeps.mapM {f : α → Load β} {as : List α} (each : ∀ a, Keeps I (f a)) : Keeps I (as.mapM f) := by
  induction as with
  | nil => exact .pure _
  | cons a rest ih =>
    rw [List.mapM_cons]
    exact .bind (each a) fun _ => .bind ih fun _ => .pure _

theorem Keeps.ofEval (result : Except EvalFault α) : Keeps I (ofEval result) := by
  cases result with
  | ok a => exact .pure a
  | error f => exact .fail f

end Load

namespace Loading

open Load

variable {I : World → Prop}

theorem keeps_lookup (sc : Scope) (n : Text) : Keeps I (lookup sc n) := by
  refine .get_bind fun w _ => ?_
  dsimp only
  split
  · exact .pure _
  · exact .fail _

theorem keeps_noAttribute {α : Type} (t : Thing) (a : Text) : Keeps I (noAttribute t a : Load α) :=
  .get_bind fun _ _ => .fail _

theorem keeps_classAttribute (id : Nat) (a : Text) : Keeps I (classAttribute id a) := by
  refine .get_bind fun w _ => ?_
  split
  · exact .pure _
  · split
    · exact .pure _
    · split
      · exact .pure _
      · exact keeps_noAttribute _ a

theorem keeps_inheritedAttribute (cls : Nat) (self : Thing) (a : Text) : Keeps I (inheritedAttribute cls self a) := by
  refine .get_bind fun w _ => ?_
  split
  · exact .pure _
  · exact .pure _
  · split
    · exact .pure _
    · exact keeps_noAttribute _ a

theorem keeps_objectAttribute (id : Nat) (a : Text) : Keeps I (objectAttribute id a) := by
  refine .get_bind fun w _ => ?_
  split
  · exact .fail _
  · split
    · exact .pure _
    · split
      · exact .pure _
      · exact .pure _
      · repeat' split
        · exact .pure _
        · exact .pure _
        · exact .pure _
        · exact keeps_noAttribute _ a

/-- Reading an attribute has no effect. -/
theorem keeps_memberOf (t : Thing) (a : Text) : Keeps I (memberOf t a) := by
  unfold memberOf
  split
  · exact keeps_classAttribute _ a
  · exact keeps_objectAttribute _ a
  · exact keeps_inheritedAttribute _ _ a
  iterate 6 exact .pure _
  · repeat' split
    · exact .pure _
    · exact .pure _
    · exact keeps_noAttribute _ a
  · split
    · exact .pure _
    · exact keeps_noAttribute _ a
  · refine .get_bind fun w _ => ?_
    repeat' split
    all_goals exact .pure _
  · split
    · exact .pure _
    · exact keeps_noAttribute _ a
  · exact keeps_noAttribute _ a

theorem keeps_operate (op : BinaryOp) (l r : Thing) : Keeps I (operate op l r) := by
  unfold operate
  repeat' split
  all_goals first | exact .pure _ | exact .raise _ _

theorem keeps_compare (op : CompareOp) (l r : Thing) : Keeps I (compare op l r) := by
  unfold compare
  dsimp only
  repeat' split
  all_goals first | exact .pure _ | exact .raise _ _

theorem keeps_setOf (ts : List Thing) : Keeps I (setOf ts) := by
  unfold setOf
  repeat' split
  · exact .pure _
  · exact .throw _
  · exact .pure _

theorem keeps_mappingOf (es : List (Thing × Thing)) : Keeps I (mappingOf es) := by
  unfold mappingOf
  repeat' split
  · exact .throw _
  · exact .pure _
  · exact .pure _
  · exact .pure _

theorem keeps_checkOrder (attrs : List (Text × Thing)) (before : List Text) (ds : List Declared) :
    Keeps I (NamedTuple.checkOrder attrs before ds) := by
  induction ds generalizing before with
  | nil => exact .pure _
  | cons d rest ih =>
    rw [NamedTuple.checkOrder]
    split
    · exact ih _
    · split
      · exact ih _
      · exact .raise _ _

theorem keeps_checkTypes (ds : List Declared) : Keeps I (NamedTuple.checkTypes ds) := by
  refine .forM fun d _ => ?_
  split
  · exact .pure _
  · split
    · exact .raise _ _
    · exact .raise _ _
    · exact .pure _

theorem keeps_checkNames (ds : List Declared) : Keeps I (NamedTuple.checkNames ds) := by
  refine .forM fun d _ => ?_
  split
  · exact .raise _ _
  · exact .pure _

theorem keeps_tupleFields (attrs : List (Text × Thing)) (ds : List Declared) :
    Keeps I (NamedTuple.fields attrs ds) := by
  refine .bind (keeps_checkOrder attrs [] ds) fun _ => .bind (keeps_checkTypes ds) fun _ => ?_
  exact .bind (keeps_checkNames ds) fun _ => .pure _

variable {call : Caller}

theorem keeps_shownAll {shown : Thing → Load Text} (each : ∀ t, Keeps I (shown t)) (ts : List Thing) :
    Keeps I (shownAll shown ts) := by
  induction ts with
  | nil => exact .pure _
  | cons t rest ih => exact .bind (each t) fun _ => .bind ih fun _ => .pure _

/-- A text of a thing has the effects of the calls that it makes. -/
theorem keeps_shown (calls : ∀ f args keywords, Keeps I (call f args keywords)) (depth : Nat) (t : Thing) :
    Keeps I (shown call depth t) := by
  induction depth generalizing t with
  | zero =>
    rw [shown]
    exact .fail _
  | succ depth ih =>
    have each : ∀ attrs names, Keeps I (shown.shownEach call depth attrs names) := by
      intro attrs names
      induction names with
      | nil =>
        rw [shown.shownEach]
        exact .pure _
      | cons n rest more =>
        rw [shown.shownEach]
        split
        · exact .bind (ih _) fun _ => .bind more fun _ => .pure _
        · exact .bind (.fail _) fun _ => .bind more fun _ => .pure _
    rw [shown]
    refine .get_bind fun w _ => ?_
    split
    · split
      · exact .fail _
      · split
        · refine .bind (calls _ _ _) fun r => ?_
          split
          · exact .pure _
          · exact .get_bind fun _ _ => .raise _ _
        · exact .bind (each _ _) fun _ => .pure _
        · exact .pure _
    · exact .bind (keeps_shownAll ih _) fun _ => .pure _
    · exact .bind (.mapM fun e => .bind (ih e.2) fun _ => .pure _) fun _ => .pure _
    · exact .pure _

theorem keeps_displayedThing (calls : ∀ f args keywords, Keeps I (call f args keywords)) (t : Thing) :
    Keeps I (displayedThing call t) := by
  unfold displayedThing
  split
  · exact .pure _
  · exact .pure _
  · exact keeps_shown calls _ _

end Loading

namespace Derive

open Load

variable {I : World → Prop}

theorem keeps_underived {α : Type} (name why : Text) : Keeps I (underived name why : Load α) :=
  .throw _

theorem keeps_optionsOf (keywords : List (Text × Thing)) : Keeps I (settingsOf.optionsOf keywords) := by
  induction keywords with
  | nil => exact .pure _
  | cons e rest ih =>
    obtain ⟨k, t⟩ := e
    cases t with
    | value v => exact .bind ih fun _ => .pure _
    | _ => exact .fail _

/-- Making settings has no effect. -/
theorem keeps_settingsOf (args : List Thing) (keywords : List (Text × Thing)) : Keeps I (settingsOf args keywords) := by
  unfold settingsOf
  refine .guarded (.fail _) (.bind (keeps_optionsOf keywords) fun options => ?_)
  split
  · exact .pure _
  · exact .throw _

theorem keeps_effective (base : Thing) (keywords : List (Text × Thing)) : Keeps I (effective base keywords) := by
  unfold effective
  split
  · exact .pure _
  · refine .guarded (.throw _) (.bind (keeps_optionsOf keywords) fun options => ?_)
    split
    · split
      · exact .pure _
      · exact .throw _
    · exact .get_bind fun _ _ => .fail _

theorem keeps_declaration (c : ClassObject) : Keeps I (declaration c) := by
  refine .get_bind fun w _ => ?_
  split
  · split
    · exact .throw _
    · exact .throw _
    · exact .throw _
    · split
      · exact .pure _
      · exact keeps_underived _ _
  · exact keeps_underived _ _

/-- What is generated for a class is not added yet. -/
theorem keeps_generate (c : ClassObject) (settings : Thing) : Keeps I (generate c settings) := by
  refine .bind (keeps_declaration c) fun found => ?_
  dsimp only
  split
  · split
    · exact .throw _
    · split
      · exact .pure _
      · exact .throw _
      · exact .fail _
  · exact .get_bind fun _ _ => .fail _

theorem keeps_checkClass (g : Generated) : Keeps I (checkClass g) := by
  unfold checkClass
  split
  · exact .pure _
  · exact .raise _ _
  · exact .raise _ _

end Derive

end FluentRecords
