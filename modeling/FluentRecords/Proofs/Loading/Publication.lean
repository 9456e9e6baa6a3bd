import FluentRecords.Loading.Probe
import FluentRecords.Proofs.Loading.Calls
import FluentRecords.Proofs.Loading.Hosts
import FluentRecords.Proofs.Loading.Leaving
import FluentRecords.Proofs.Outcome

/-!
The names of a module after it has run: those that its own statements bind, and the builders of the classes that
belong to it directly. Nothing else that is generated for a class becomes a name of the module.
-/

namespace FluentRecords

open Load Loading

variable {source : Text} {m : Module} {w w' : World} {n : Text}

/-- A builder with the name is derived for a class that belongs to the module directly. -/
def World.Publishes (w : World) (n : Text) : Prop :=
  ∃ d ∈ w.derivations, d.parent.isEmpty = true ∧ d.builderName = n

theorem World.builderUnder?_eq_some {t : Thing} (under : w.builderUnder? n = some t) :
    ∃ (i : Nat) (d : Derivation), w.derivations[i]? = some d ∧ d.parent.isEmpty = true ∧ d.builderName = n ∧
      t = d.published i := by
  obtain ⟨⟨d, i⟩, found, rfl⟩ := Option.map_eq_some_iff.mp under
  have listed := List.mem_reverse.mp (List.mem_of_find?_eq_some found)
  have holds := List.find?_some found
  rw [Bool.and_eq_true, beq_iff_eq] at holds
  exact ⟨i, d, List.mem_zipIdx_iff_getElem?.mp listed, holds.1, holds.2, rfl⟩

theorem World.builderUnder?_isSome (published : w.Publishes n) : (w.builderUnder? n).isSome = true := by
  obtain ⟨d, member, top, named⟩ := published
  obtain ⟨i, at_⟩ := List.getElem?_of_mem member
  rw [World.builderUnder?, Option.isSome_map, List.find?_isSome]
  refine ⟨(d, i), List.mem_reverse.mpr (List.mem_zipIdx_iff_getElem?.mpr at_), ?_⟩
  rw [Bool.and_eq_true, beq_iff_eq]
  exact ⟨top, named⟩

theorem run_eq_ok (run : Loading.run source = .ok w) :
    ∃ m, Module.parse source = .ok m ∧ (runModule m).Gives (World.start source.lineFeeds m) () w := by
  unfold Loading.run at run
  split at run
  · cases run
  · cases run
  · cases run
  · rename_i m parsed
    refine ⟨m, parsed, ?_⟩
    split at run
    · rename_i w₁ ended
      cases run
      exact ended
    · cases run

theorem World.Runs.start (own : List Naming) (source : Text) (m : Module) :
    World.Runs own (World.start source m) (World.start source m) where
  reaches := .start
  framed := List.cons_ne_nil _ _
  functions := fun _ none => by cases none

theorem Module.knows (m : Module) : moduleScope.Knows m.namings (namingsAmong m.body) :=
  fun _ member _ => List.mem_append_left _ member

theorem Module.announced (m : Module) : Announced m.namings (stmtsWithin m.body) :=
  fun s member _ inside => List.mem_append_right _ (List.mem_flatMap.mpr ⟨s, member, inside⟩)

/-- A module that runs to its end goes there by its own steps, and leaves the names that it surely binds. -/
theorem runModule_gives {source : Text} (given : (runModule m).Gives (World.start source m) () w) :
    World.Runs m.namings (World.start source m) w ∧
      ∀ n ∈ sureNamesAmong m.body, .free n ∉ m.namings → w.Binds n := by
  have started := World.Runs.start m.namings source m
  obtain ⟨flow, w₁, first, ended⟩ := gives_bind.mp given
  cases flow with
  | returned t => exact absurd ended not_gives_fail
  | next =>
    obtain ⟨_, rfl⟩ := gives_pure.mp ended
    have calls : ∀ w₀ f args keywords, Load.Keeps (World.Runs m.namings w₀) (callTop f args keywords) := fun _ =>
      runs_callThing callDepth
    have steady : Proceeds m.namings (execAll callTop moduleScope m.body) := fun w₀ =>
      runs_execAll (calls w₀) moduleScope m.body m.knows m.announced
    refine ⟨steady.runs started first, fun n sure kept => ?_⟩
    exact leaves_execAll calls kept rfl m.body m.knows m.announced sure _ _ _ _ started first rfl

theorem World.Accounted.start (own : List Naming) (source : Text) (m : Module) :
    (World.start source m).Accounted own where
  recorded := fun _ none => by cases none
  explained := fun _ _ => Or.inl rfl
  published := fun _ _ none => by cases none

/-- The activation decorator adds a builder, and no name of the module but that of the builder if the class
belongs to it directly. -/
theorem deriveClass_names {settings t : Thing} {id : Nat} (framed : w.frames ≠ [])
    (given : (Derive.deriveClass settings id).Gives w t w') :
    ∃ (c : ClassObject) (d : Derivation), w.classes[id]? = some c ∧ d.record = id ∧ d.parent = Derive.parentPath c.path ∧
      w'.derivations = w.derivations ++ [d] ∧ ∀ n, getThing? w'.globals n =
        if d.parent.isEmpty && d.builderName == n then some (d.published w.derivations.length)
        else getThing? w.globals n := by
  obtain ⟨c, g, s, present, _, rfl⟩ := deriveClass_gives given
  exact ⟨c, _, present, rfl, rfl, World.derivations_addBuilder w _, World.getThing?_addBuilder framed _⟩

/-- The names of a module that has run. What its statements bind is there, the builders of classes that belong to it
directly are, and nothing else: neither builders of other classes nor what the generated code imports and defines.
Under the name of a builder stands the builder, or the factory if it is called like it. -/
structure World.NamedBy (w : World) (m : Module) : Prop where
  derived : ∀ d ∈ w.derivations, ∃ c, w.classes[d.record]? = some c ∧ d.parent = Derive.parentPath c.path
  named : ∀ n, w.Binds n → .bind n ∈ m.namings ∨ w.Publishes n
  kept : ∀ n, .free n ∉ m.namings → n ∈ sureNamesAmong m.body ∨ w.Publishes n → w.Binds n
  published : ∀ n, .bind n ∉ m.namings → w.Binds n → ∃ (i : Nat) (d : Derivation), w.derivations[i]? = some d ∧
    d.parent.isEmpty = true ∧ d.builderName = n ∧ getThing? w.globals n = some (d.published i)

theorem World.Accounted.namedBy (accounted : w.Accounted m.namings)
    (sure : ∀ n ∈ sureNamesAmong m.body, .free n ∉ m.namings → w.Binds n) : w.NamedBy m := by
  have published : ∀ n, .bind n ∉ m.namings → w.Binds n → ∃ (i : Nat) (d : Derivation), w.derivations[i]? = some d ∧
      d.parent.isEmpty = true ∧ d.builderName = n ∧ getThing? w.globals n = some (d.published i) := by
    intro n other bound
    rcases accounted.explained n other with none | same
    · rw [World.Binds, none] at bound
      cases bound
    · rw [World.Binds, same] at bound
      obtain ⟨t, under⟩ := Option.isSome_iff_exists.mp bound
      obtain ⟨i, d, place, top, named, rfl⟩ := World.builderUnder?_eq_some under
      exact ⟨i, d, place, top, named, same.trans under⟩
  refine ⟨fun d member => ?_, fun n bound => ?_, fun n free there => ?_, published⟩
  · obtain ⟨path, record, parent⟩ := accounted.recorded d member
    rw [World.paths, List.getElem?_map] at record
    obtain ⟨c, present, rfl⟩ := Option.map_eq_some_iff.mp record
    exact ⟨c, present, parent⟩
  · by_cases own : .bind n ∈ m.namings
    · exact Or.inl own
    · obtain ⟨i, d, place, top, named, _⟩ := published n own bound
      exact Or.inr ⟨d, List.mem_of_getElem? place, top, named⟩
  · rcases there with surely | builder
    · exact sure n surely free
    · exact accounted.published n free (World.builderUnder?_isSome builder)

/-- A module that has run has the names of its own statements and the builders of classes that belong to it directly.
On the way there the activation decorator never does more to its names than to add the name of such a builder. -/
theorem run_publishes (run : Loading.run source = .ok w) : ∃ m, Module.parse source = .ok m ∧ w.NamedBy m ∧
    ∀ w₁ w₂ settings t id, World.Reaches m.namings (World.start source.lineFeeds m) w₁ →
      (Derive.deriveClass settings id).Gives w₁ t w₂ → ∃ (c : ClassObject) (d : Derivation),
        w₁.classes[id]? = some c ∧ d.record = id ∧ d.parent = Derive.parentPath c.path ∧
        w₂.derivations = w₁.derivations ++ [d] ∧ ∀ n, getThing? w₂.globals n =
          if d.parent.isEmpty && d.builderName == n then some (d.published w₁.derivations.length)
          else getThing? w₁.globals n := by
  obtain ⟨m, parsed, given⟩ := run_eq_ok run
  obtain ⟨runs, sure⟩ := runModule_gives given
  have framed : (World.start source.lineFeeds m).frames ≠ [] := List.cons_ne_nil _ _
  have accounted := runs.reaches.accounted framed (World.Accounted.start m.namings source.lineFeeds m)
  refine ⟨m, parsed, accounted.namedBy sure, fun w₁ w₂ settings t id reach derived => ?_⟩
  exact deriveClass_names (reach.framed framed) derived

/-- A record whose factory is called like its builder. The module looks whether it finds a class there. -/
def factorySource : Text :=
  "from recordbuilder import derive_builder\n@derive_builder(factory_name=\"ABuilder\")\nclass A:\n    x: int\n"
    ++ "if type(ABuilder) is not type(A):\n    factory = ABuilder\n"

/-- Whether a thing is a factory that is not looked up in its class. -/
def Thing.isStaticFactory : Thing → Bool
  | .staticFactory _ => true
  | _ => false

theorem sources_run :
    ((Loading.run recordSource).toOption.any fun w =>
      w.globals.map (·.1) == (["derive_builder", "PBuilder", "P"] : List Text)) = true ∧
    ((Loading.run factorySource).toOption.any fun w =>
      (getThing? w.globals "ABuilder").any Thing.isStaticFactory && (getThing? w.globals "factory").isSome) = true := by
  decide +kernel

theorem run_publishes_record : ∃ w m, Loading.run recordSource = .ok w ∧ Module.parse recordSource = .ok m ∧
    w.NamedBy m ∧ w.globals.map (·.1) = (["derive_builder", "PBuilder", "P"] : List Text) := by
  obtain ⟨w, run, names⟩ := exists_of_toOption_any sources_run.1
  obtain ⟨m, parsed, named, _⟩ := run_publishes run
  exact ⟨w, m, run, parsed, named, beq_iff_eq.mp names⟩

theorem publishes_factory : ∃ w, Loading.run factorySource = .ok w ∧
    (getThing? w.globals "ABuilder").any Thing.isStaticFactory = true ∧ w.Binds "factory" := by
  obtain ⟨w, run, found⟩ := exists_of_toOption_any sources_run.2
  obtain ⟨factory, bound⟩ := Bool.and_eq_true_iff.mp found
  exact ⟨w, run, factory, bound⟩

end FluentRecords
