import FluentRecords.Loading.Derivation
import FluentRecords.Proofs.Loading.Namings
import Mathlib.Data.List.Basic

/-!
Steps of a running module, by what they do to its names. Statements of the module bind and free names of their own,
builders are added, and nothing else is done to the names: where the run goes from there, they can be accounted for.
-/

namespace FluentRecords

theorem getThing?_cons (e : Text × Thing) (rest : List (Text × Thing)) (n : Text) :
    getThing? (e :: rest) n = if e.1 = n then some e.2 else getThing? rest n := by
  rw [getThing?, List.find?_cons]
  by_cases here : e.1 = n
  · rw [if_pos here, beq_iff_eq.mpr here]
    rfl
  · rw [if_neg here, beq_eq_false_iff_ne.mpr here]
    rfl

theorem getThing?_putThing (n n' : Text) (t : Thing) (names : List (Text × Thing)) :
    getThing? (putThing n t names) n' = if n = n' then some t else getThing? names n' := by
  induction names with
  | nil => exact getThing?_cons (n, t) [] n'
  | cons e rest ih =>
    rw [putThing, getThing?_cons e]
    by_cases here : e.1 = n
    · rw [if_pos here, getThing?_cons, here]
      by_cases same : n = n'
      · rw [if_pos same, if_pos same]
      · rw [if_neg same, if_neg same, if_neg same]
    · rw [if_neg here, getThing?_cons, ih]
      by_cases first : e.1 = n'
      · have other : n ≠ n' := fun equal => here (first.trans equal.symm)
        rw [if_pos first, if_neg other, if_pos first]
      · rw [if_neg first, if_neg first]

theorem getThing?_filter (n n' : Text) (names : List (Text × Thing)) :
    getThing? (names.filter (·.1 != n)) n' = if n = n' then none else getThing? names n' := by
  induction names with
  | nil => exact (ite_self _).symm
  | cons e rest ih =>
    rw [List.filter_cons, getThing?_cons e]
    by_cases here : e.1 = n
    · rw [if_neg (by simp [here]), ih, here]
      by_cases same : n = n'
      · rw [if_pos same, if_pos same]
      · rw [if_neg same, if_neg same, if_neg same]
    · rw [if_pos (by simp [here]), getThing?_cons, ih]
      by_cases first : e.1 = n'
      · have other : n ≠ n' := fun equal => here (first.trans equal.symm)
        rw [if_pos first, if_neg other, if_pos first]
      · rw [if_neg first, if_neg first]

namespace World

variable {w : World} {n : Text} {t : Thing} {frame : Nat}

/-- The qualified names of the classes. -/
def paths (w : World) : List Text :=
  w.classes.map ClassObject.path

theorem paths_modifyClass {id : Nat} {f : ClassObject → ClassObject} (same : ∀ c, (f c).path = c.path) :
    (w.modifyClass id f).paths = w.paths := by
  refine List.ext_getElem? fun i => ?_
  rw [paths, paths, modifyClass, List.getElem?_map, List.getElem?_map, List.getElem?_modify]
  cases w.classes[i]? with
  | none => rfl
  | some c =>
    by_cases here : id = i
    · simp [here, same]
    · simp [here]

theorem globals_bind (n : Text) (t : Thing) (framed : w.frames ≠ []) : (w.bind 0 n t).globals = putThing n t w.globals := by
  cases frames : w.frames with
  | nil => exact absurd frames framed
  | cons f rest => simp [World.bind, globals, frames]

theorem globals_unbind (w : World) (n : Text) : (w.unbind 0 n).globals = w.globals.filter (·.1 != n) := by
  cases frames : w.frames with
  | nil => simp [World.unbind, globals, frames]
  | cons f rest => simp [World.unbind, globals, frames]

theorem modify_frames_ne_nil (framed : w.frames ≠ []) (i : Nat) (g : NameFrame → NameFrame) :
    w.frames.modify i g ≠ [] := by
  intro none
  have length := congrArg List.length none
  rw [List.length_modify] at length
  exact framed (List.length_eq_zero_iff.mp length)

/-- What is done to another frame is not done to the names of the module. -/
theorem globals_modify {g : NameFrame → NameFrame} (inner : frame ≠ 0) :
    ({ w with frames := w.frames.modify frame g } : World).globals = w.globals := by
  cases frame with
  | zero => exact absurd rfl inner
  | succ frame =>
    cases frames : w.frames with
    | nil => simp [globals, frames]
    | cons f rest => simp [globals, frames]

theorem derivations_addBuilder (w : World) (d : Derivation) : (w.addBuilder d).derivations = w.derivations ++ [d] := by
  unfold addBuilder
  dsimp only
  split
  · rfl
  · rfl

theorem functions_addBuilder (w : World) (d : Derivation) : (w.addBuilder d).functions = w.functions := by
  unfold addBuilder
  dsimp only
  split
  · rfl
  · rfl

theorem globals_addBuilder (framed : w.frames ≠ []) (d : Derivation) : (w.addBuilder d).globals =
    if d.parent.isEmpty then putThing d.builderName (d.published w.derivations.length) w.globals else w.globals := by
  unfold addBuilder
  dsimp only
  split
  · exact globals_bind _ _ framed
  · rfl

theorem getThing?_addBuilder (framed : w.frames ≠ []) (d : Derivation) (n : Text) :
    getThing? (w.addBuilder d).globals n =
      if d.parent.isEmpty && d.builderName == n then some (d.published w.derivations.length)
      else getThing? w.globals n := by
  rw [globals_addBuilder framed]
  cases d.parent.isEmpty with
  | true =>
    rw [if_pos rfl, getThing?_putThing, Bool.true_and]
    by_cases same : d.builderName = n
    · rw [if_pos same, if_pos (beq_iff_eq.mpr same)]
    · rw [if_neg same, if_neg fun equal => same (beq_iff_eq.mp equal)]
  | false => rfl

theorem paths_setClassAttr (w : World) (id : Nat) (n : Text) (t : Thing) : (w.setClassAttr id n t).paths = w.paths :=
  paths_modifyClass fun _ => rfl

theorem paths_addBuilder (w : World) (d : Derivation) : (w.addBuilder d).paths = w.paths := by
  unfold addBuilder
  dsimp only
  split
  · exact paths_setClassAttr { w with derivations := w.derivations ++ [d] } _ _ _
  · exact paths_setClassAttr { w with derivations := w.derivations ++ [d] } _ _ _

/-- A step of a run, by what it does to the names of the module: some are bound or freed by statements of its own,
a builder is added for a class, or no name is touched. Classes keep their qualified names. -/
inductive Step (own : List Naming) (w : World) : World → Prop
  | bound {n : Text} (t : Thing) (named : .bind n ∈ own) : Step own w (w.bind 0 n t)
  | freed {n : Text} (named : .free n ∈ own) : Step own w (w.unbind 0 n)
  | derived {d : Derivation} {path : Text} (record : w.paths[d.record]? = some path)
      (parent : d.parent = Derive.parentPath path) : Step own w (w.addBuilder d)
  | elsewhere {w' : World} (framed : w'.frames ≠ []) (names : w'.globals = w.globals)
      (builders : w'.derivations = w.derivations) (classes : w.paths <+: w'.paths) : Step own w w'

/-- Some steps lead from a world to another. -/
inductive Reaches (own : List Naming) (w : World) : World → Prop
  | start : Reaches own w w
  | next {before after : World} (reach : Reaches own w before) (step : Step own before after) : Reaches own w after

variable {own : List Naming} {w₀ w' : World}

theorem Step.framed (step : Step own w w') (framed : w.frames ≠ []) : w'.frames ≠ [] := by
  cases step with
  | bound t named => exact modify_frames_ne_nil framed 0 _
  | freed named => exact modify_frames_ne_nil framed 0 _
  | @derived d path record parent =>
    unfold addBuilder
    dsimp only
    split
    · exact modify_frames_ne_nil framed 0 _
    · exact framed
  | elsewhere framed => exact framed

theorem Reaches.framed (reach : Reaches own w₀ w) (framed : w₀.frames ≠ []) : w.frames ≠ [] := by
  induction reach with
  | start => exact framed
  | next _ step ih => exact step.framed ih

/-- What was published under a name: the builder of the last class that belongs to the module directly and whose
builder has the name. -/
def builderUnder? (w : World) (n : Text) : Option Thing :=
  (w.derivations.zipIdx.reverse.find? fun (d, _) => d.parent.isEmpty && d.builderName == n).map fun (d, i) =>
    d.published i

theorem builderUnder?_addBuilder (w : World) (d : Derivation) (n : Text) : (w.addBuilder d).builderUnder? n =
    if d.parent.isEmpty && d.builderName == n then some (d.published w.derivations.length) else w.builderUnder? n := by
  rw [builderUnder?, derivations_addBuilder, List.zipIdx_append, List.reverse_append, Nat.zero_add]
  change (((d, w.derivations.length) :: w.derivations.zipIdx.reverse).find? _).map _ = _
  rw [List.find?_cons]
  dsimp only
  cases d.parent.isEmpty && d.builderName == n with
  | true => rfl
  | false => rfl

/-- The names of the module, and where they come from. What is under a name that the module does not bind itself
was published, and what was published is there unless the module frees or binds the name itself. -/
structure Accounted (own : List Naming) (w : World) : Prop where
  recorded : ∀ d ∈ w.derivations, ∃ path, w.paths[d.record]? = some path ∧ d.parent = Derive.parentPath path
  explained : ∀ n, .bind n ∉ own → getThing? w.globals n = none ∨ getThing? w.globals n = w.builderUnder? n
  published : ∀ n, .free n ∉ own → (w.builderUnder? n).isSome = true → (getThing? w.globals n).isSome = true

theorem Step.accounted (step : Step own w w') (framed : w.frames ≠ []) (before : w.Accounted own) :
    w'.Accounted own := by
  cases step with
  | @bound n t named =>
    refine ⟨before.recorded, fun n' other => ?_, fun n' kept builder => ?_⟩
    · have different : n ≠ n' := fun same => other (same ▸ named)
      rw [globals_bind n t framed, getThing?_putThing, if_neg different]
      exact before.explained n' other
    · rw [globals_bind n t framed, getThing?_putThing]
      split
      · rfl
      · exact before.published n' kept builder
  | @freed n named =>
    refine ⟨before.recorded, fun n' other => ?_, fun n' kept builder => ?_⟩
    · rw [globals_unbind, getThing?_filter]
      split
      · exact Or.inl rfl
      · exact before.explained n' other
    · have different : n ≠ n' := fun same => kept (same ▸ named)
      rw [globals_unbind, getThing?_filter, if_neg different]
      exact before.published n' kept builder
  | @derived d path record parent =>
    refine ⟨?_, fun n other => ?_, fun n kept builder => ?_⟩
    · rw [derivations_addBuilder, paths_addBuilder, List.forall_mem_append, List.forall_mem_singleton]
      exact ⟨before.recorded, path, record, parent⟩
    · rw [getThing?_addBuilder framed, builderUnder?_addBuilder]
      split
      · exact Or.inr rfl
      · exact before.explained n other
    · rw [getThing?_addBuilder framed]
      rw [builderUnder?_addBuilder] at builder
      split
      · rfl
      · rename_i older
        rw [if_neg older] at builder
        exact before.published n kept builder
  | elsewhere _ names builders classes =>
    have under : ∀ n, w'.builderUnder? n = w.builderUnder? n := fun n => by rw [builderUnder?, builders]; rfl
    refine ⟨fun d member => ?_, fun n other => ?_, fun n kept builder => ?_⟩
    · obtain ⟨path, record, parent⟩ := before.recorded d (builders ▸ member)
      obtain ⟨more, same⟩ := classes
      obtain ⟨bound, _⟩ := List.getElem?_eq_some_iff.mp record
      exact ⟨path, by rwa [← same, List.getElem?_append_left bound], parent⟩
    · rw [names, under]
      exact before.explained n other
    · rw [names]
      exact before.published n kept (under n ▸ builder)

theorem Reaches.accounted (reach : Reaches own w₀ w) (framed : w₀.frames ≠ []) (before : w₀.Accounted own) :
    w.Accounted own := by
  induction reach with
  | start => exact before
  | next reach step ih => exact step.accounted (reach.framed framed) ih

/-- A name stays once it is there, unless the module frees it. -/
theorem Reaches.stays {n : Text} (reach : Reaches own w₀ w) (framed : w₀.frames ≠ []) (kept : .free n ∉ own)
    (there : (getThing? w₀.globals n).isSome = true) : (getThing? w.globals n).isSome = true := by
  induction reach with
  | start => exact there
  | next reach step ih =>
    cases step with
    | bound t named =>
      rw [globals_bind _ t (reach.framed framed), getThing?_putThing]
      split
      · rfl
      · exact ih
    | @freed n' named =>
      have different : n' ≠ n := fun same => kept (same ▸ named)
      rwa [globals_unbind, getThing?_filter, if_neg different]
    | derived record parent =>
      rw [getThing?_addBuilder (reach.framed framed)]
      split
      · rfl
      · exact ih
    | elsewhere _ names builders classes => rwa [names]

end World

end FluentRecords
