import FluentRecords.Proofs.Session.Hooks

/-!
The record of last writes. Whatever a session did before, a finalizer that is invoked on a builder reports
the required fields to which nothing was written, and otherwise answers the record of the values written
last, if it answers one. This takes names that leave reading attributes alone: with other names it
reports nothing, whatever is missing.
-/

namespace FluentRecords

/-- The shape of a generated builder. -/
def Generated.shape (g : Generated) : BuilderShape :=
  .ofRecord g.record g.builder.name

theorem Generated.shape_fields (g : Generated) : g.shape.slots.map Slot.field = g.record.names :=
  BuilderShape.ofRecord_fields g.record g.builder.name

theorem Generated.shape_nonempty (g : Generated) : g.shape.slots ≠ [] :=
  fun none => g.record.fields_ne (List.map_eq_nil_iff.mp none)

namespace Session

/-- The state of a session and its journal after one more step. -/
def advance (m : Machine) (b : BuilderShape) (settings : Settings) (now : SessionState × Journal) (st : Step) :
    SessionState × Journal :=
  ((step m settings now.1 st).2, st.record b settings now.1.held now.2)

/-- The state of a session and its journal after some steps. -/
def after (m : Machine) (b : BuilderShape) (settings : Settings) (sts : List Step) : SessionState × Journal :=
  sts.foldl (advance m b settings) (start, [])

variable {m : Machine} {b : BuilderShape} {settings : Settings}

theorem after_concat (sts : List Step) (st : Step) :
    after m b settings (sts ++ [st]) = advance m b settings (after m b settings sts) st := by
  rw [after, List.foldl_append]
  rfl

theorem Tracks.foldl (ready : m.Ready b settings) {now : SessionState × Journal}
    (tracks : Tracks m b settings now.1 now.2) (sts : List Step) :
    Tracks m b settings (sts.foldl (advance m b settings) now).1 (sts.foldl (advance m b settings) now).2 := by
  induction sts generalizing now with
  | nil => exact tracks
  | cons st rest ih => exact ih (tracks.step ready st).1

/-- A session tracks its journal all along. -/
theorem tracks_after (ready : m.Ready b settings) (sts : List Step) :
    Tracks m b settings (after m b settings sts).1 (after m b settings sts).2 :=
  Tracks.foldl ready .start sts

theorem steps_getElem? (now : SessionState × Journal) (before later : List Step) (st : Step) :
    (steps m settings now.1 (before ++ st :: later))[before.length]? =
      some (step m settings (before.foldl (advance m b settings) now).1 st).1 := by
  induction before generalizing now with
  | nil => rfl
  | cons first rest ih => exact ih (advance m b settings now first)

/-- A step of a session answers what it answers after the steps before it. -/
theorem answer_eq (before later : List Step) (st : Step) :
    (steps m settings start (before ++ st :: later))[before.length]? =
      some (step m settings (after m b settings before).1 st).1 :=
  steps_getElem? (start, []) before later st

end Session

theorem Expansion.setUp {settings : Settings} {d : Declaration} {e : Expansion} {g : Generated} {m : Machine}
    (run : Expansion.expand settings d = .ok e) (generated : e.generated = some g)
    (made : Machine.ofGenerated g settings Session.standIn = .ok m) :
    m.SetUp g.shape settings ∧ ∀ s ∈ g.shape.slots, Text.startsWith "__" s.field = false := by
  obtain ⟨same, names⟩ := Expansion.expand_generated run generated
  refine ⟨?_, fun s member => ?_⟩
  · have builder : g.builder.name = settings.builderName g.record.name := by
      rw [same]
      rfl
    rw [same] at made
    rw [Generated.shape, builder]
    exact Machine.ofGenerated_setUp made names.visible
  · exact names.visible s.field (g.shape_fields ▸ List.mem_map_of_mem member)

/-- In every session with a generated builder, each step that invokes the finalizer of a builder answers
the last writes to it, if the names leave reading attributes alone. If not, it never reports missing fields. -/
theorem Expansion.finalizer_answers {settings : Settings} {d : Declaration} {e : Expansion} {g : Generated}
    {m : Machine} (run : Expansion.expand settings d = .ok e) (generated : e.generated = some g)
    (made : Machine.ofGenerated g settings Session.standIn = .ok m) (before later : List Step) (st : Step)
    {id : Nat} (held : builderOf? (Session.after m g.shape settings before).1.held st.on = some id)
    (final : st.finalizes g.shape settings = true) :
    ∃ answer, (Session.steps m settings Session.start (before ++ st :: later))[before.length]? = some answer ∧
      (PlainNames settings.finalizerName.val g.record.names →
        Session.AnswersLastWrites g.shape settings (Session.after m g.shape settings (before ++ [st])).2 id answer) ∧
      (¬ PlainNames settings.finalizerName.val g.record.names →
        ∀ names, answer ≠ .failed (.eval (.missingFields names))) := by
  obtain ⟨setUp, visible⟩ := Expansion.setUp run generated made
  refine ⟨_, Session.answer_eq (b := g.shape) before later st, fun plain => ?_, fun taken => ?_⟩
  · rw [← g.shape_fields] at plain
    have ready : m.Ready g.shape settings := ⟨setUp, g.shape_nonempty, visible, plain⟩
    rw [Session.after_concat]
    exact ((Session.tracks_after ready before).step ready st).2 id held final
  · rw [← g.shape_fields] at taken
    exact Session.step_taken setUp g.shape_nonempty visible taken held final

/-- Two builders that are written to in turn do not notice each other. -/
theorem finalizer_answers_second_builder :
    ∃ e g m, Expansion.expand .default (.ofFields "P" ["x"]) = .ok e ∧ e.generated = some g ∧
      Machine.ofGenerated g .default Session.standIn = .ok m ∧
      ∃ answer, (Session.steps m .default Session.start
          [.create "a", .create "b", .call "b" "x" [.int 1], .assign "a" "_x" (.int 2),
            .call "b" "build" []])[4]? = some answer ∧
        Session.AnswersLastWrites g.shape .default [⟨0, "_x", .int 2⟩, ⟨1, "_x", .int 1⟩] 1 answer := by
  have run : Expansion.expand .default (.ofFields "P" ["x"]) = .ok ⟨_, some _, _⟩ := rfl
  have plain : PlainNames "build" ["x"] := ⟨by decide, by decide, by decide⟩
  obtain ⟨answer, found, answers, _⟩ := Expansion.finalizer_answers run rfl rfl
    [.create "a", .create "b", .call "b" "x" [.int 1], .assign "a" "_x" (.int 2)] [] (.call "b" "build" [])
    (by rfl) (by rfl)
  exact ⟨_, _, _, run, rfl, rfl, answer, found, answers plain⟩

/-- The steps that make a builder and finalize it at once. -/
def Session.emptyHanded (settings : Settings) : List Step :=
  [.create "b", .call "b" settings.finalizerName.val []]

/-- A builder that is finalized at once does not answer the last writes to it. -/
def Session.Misanswers (settings : Settings) (d : Declaration) : Prop :=
  ∃ e g m answer, Expansion.expand settings d = .ok e ∧ e.generated = some g ∧
    Machine.ofGenerated g settings Session.standIn = .ok m ∧
    (Session.steps m settings Session.start (Session.emptyHanded settings))[1]? = some answer ∧
    ¬ Session.AnswersLastWrites g.shape settings
      (Session.after m g.shape settings (Session.emptyHanded settings)).2 0 answer

/-- A finalizer that belongs to the class answers a record of descriptors, and one that takes the place of
reading cannot be called at all, although nothing was written to the required field. -/
theorem misanswers_class_hook_and_reading :
    Session.Misanswers (.finalizedBy ⟨"__init_subclass__", by decide⟩) (.ofFields "P" ["x"]) ∧
      Session.Misanswers (.finalizedBy ⟨"__getattribute__", by decide⟩) (.ofFields "P" ["x"]) := by
  refine ⟨⟨_, _, _, _, rfl, rfl, rfl, rfl, fun answers => ?_⟩, _, _, _, _, rfl, rfl, rfl, rfl, fun answers => ?_⟩
  · have report := answers.missing (by decide)
    cases report
  · have report := answers.missing (by decide)
    cases report

end FluentRecords
