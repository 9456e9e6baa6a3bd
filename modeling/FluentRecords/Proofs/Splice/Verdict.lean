import FluentRecords.GeneratedFile
import FluentRecords.Proofs.Record.Expansion
import FluentRecords.Proofs.Splice.Body

/-!
All or nothing. An expansion generates everything or reports one error; a transformed source holds what is
generated for all of its requests, or there is none and the errors of all requests are reported in order.
-/

namespace FluentRecords

/-- How the expansion of a named declaration ends: with all that is generated for a classified record, its
builder, its factory and the import for both, and no diagnostic; or with nothing and one error. -/
inductive Expansion.Decided (name : Text) : Expansion → Prop
  | complete {r : Record} {settings : Settings} (classified : r.isClassified = true) :
      Decided name ⟨some name, some (.ofRecord r settings), []⟩
  | refused {d : Diagnostic} (error : d.isError = true) : Decided name ⟨some name, none, [d]⟩

namespace Expansion

variable {name : Text} {e : Expansion}

theorem expand_decided {settings : Settings} {s : Stmt} (named : s.declaredName? = some name)
    (run : Expansion.expand settings (.stmt s) = .ok e) : e.Decided name := by
  have called : Declaration.name? (.stmt s) = some name := named
  cases ends_of_expand run with
  | rejected =>
    rw [called]
    exact .refused rfl
  | @generated r =>
    rw [called]
    exact .complete (Record.classify_isClassified _ r)

/-- A decided expansion reports errors only. -/
theorem Decided.isError (decided : e.Decided name) {d : Diagnostic} (reported : d ∈ e.diagnostics) :
    d.isError = true := by
  cases decided with
  | complete classified => cases reported
  | refused error => rwa [List.mem_singleton.mp reported]

end Expansion

theorem Request.expand_decided {settings : Settings} {r : Request} {e : Expansion}
    (named : r.stmt.declaredName? = some r.name) (run : r.expand settings = .ok e) : e.Decided r.name := by
  cases ends_of_expand run with
  | nested => exact .refused rfl
  | unset => exact .refused rfl
  | expanded _ _ run => exact Expansion.expand_decided named run

variable {settings : Settings} {m : Module} {source : Text}

/-- Expansions that answer the annotated declarations of a module: each of them once, in the order of their
places, and each expansion decided. -/
structure Module.Answered (settings : Settings) (m : Module) (es : List Expansion) : Prop where
  declarations : ((m.requests settings.activationName.val).map Request.stmt).Perm
    ((stmtsWithin m.body).filter (Stmt.isAnnotated settings.activationName.val))
  ordered : (m.requests settings.activationName.val).Pairwise fun r s => r.before s = true
  decided : List.Forall₂ (fun r e => r.expand settings = .ok e ∧ e.Decided r.name)
    (m.requests settings.activationName.val) es

theorem Module.expandAll_answered {es : List Expansion} (run : m.expandAll settings = .ok es) :
    m.Answered settings es where
  declarations := Module.map_stmt_requests _ m
  ordered := Module.requests_pairwise _ m
  decided := by
    have named : ∀ r ∈ m.requests settings.activationName.val, r.stmt.declaredName? = some r.name :=
      fun r member => (Module.of_mem_requests member).1
    refine ((List.forall₂_and_left _ _).mpr ⟨named, mapM_eq_ok.mp run⟩).imp ?_
    rintro r e ⟨declared, expanded⟩
    exact ⟨expanded, Request.expand_decided declared expanded⟩

/-- What is reported for a module are errors. -/
theorem Module.Answered.isError {es : List Expansion} (answered : m.Answered settings es) {d : Diagnostic}
    (reported : d ∈ es.flatMap Expansion.diagnostics) : d.isError = true := by
  obtain ⟨e, listed, reported⟩ := List.mem_flatMap.mp reported
  obtain ⟨i, bound, rfl⟩ := List.getElem_of_mem listed
  have each := List.forall₂_iff_get.mp answered.decided
  exact (each.2 i (each.1 ▸ bound) bound).2.isError reported

/-- A spliced module comes with the expansions of all requests, and stays as it was if one of them is in error. -/
theorem Module.splice_ends {s : Splice} (run : m.splice settings = .ok s) :
    m.expandAll settings = .ok s.expansions ∧ (s.hasErrors = true → s.module = m) := by
  unfold Module.splice at run
  obtain ⟨es, expanded, run⟩ := bind_eq_ok.mp run
  dsimp only at run
  split at run
  · cases run
    exact ⟨expanded, fun _ => rfl⟩
  · rename_i clean
    obtain ⟨rest, _, run⟩ := bind_eq_ok.mp run
    cases run
    refine ⟨expanded, fun errors => absurd ?_ clean⟩
    change (Splice.mk m es).hasErrors = true at errors
    rw [errors, Bool.true_or]

theorem Module.splice_expansions {s : Splice} (run : m.splice settings = .ok s) :
    m.expandAll settings = .ok s.expansions :=
  (Module.splice_ends run).1

/-- A spliced module answers its annotated declarations, and stays as it was if one of them is in error. -/
theorem Module.splice_answered {s : Splice} (run : m.splice settings = .ok s) :
    m.Answered settings s.expansions ∧ (s.hasErrors = true → s.module = m) :=
  (Module.splice_ends run).imp_left Module.expandAll_answered

/-- How a source is transformed: one with a fault is refused with it, and one whose module is spliced with errors
with these; without requests it stays as it is, and otherwise the spliced module is printed. -/
inductive Transformed.Ends (settings : Settings) (source : Text) : Transformed → Prop
  | malformed {f : SourceFault} {known : SyntaxFault} (parsed : Module.parse source = .error f)
      (told : f.asBreakdown = .ok known) : Ends settings source ⟨none, [], [Diagnostic.ofFault known]⟩
  | rejected {m : Module} {s : Splice} (parsed : Module.parse source = .ok m) (spliced : m.splice settings = .ok s)
      (errors : s.hasErrors = true) : Ends settings source ⟨none, s.expansions, s.diagnostics⟩
  | quiet {m : Module} {s : Splice} (parsed : Module.parse source = .ok m) (spliced : m.splice settings = .ok s)
      (clean : s.hasErrors = false) (none : s.expansions = []) : Ends settings source ⟨some source, [], []⟩
  | printed {m : Module} {s : Splice} {text : Text} (parsed : Module.parse source = .ok m)
      (spliced : m.splice settings = .ok s) (clean : s.hasErrors = false) (requested : s.expansions ≠ [])
      (made : s.module.text = .ok text) : Ends settings source ⟨some (text ++ "\n"), s.expansions, s.diagnostics⟩

theorem Transformed.ends_of_transform {t : Transformed} (run : transform settings source = .ok t) :
    t.Ends settings source := by
  unfold transform at run
  split at run
  · rename_i f parsed
    obtain ⟨known, told, run⟩ := bind_eq_ok.mp run
    cases run
    exact .malformed parsed told
  · rename_i m parsed
    obtain ⟨s, spliced, run⟩ := bind_eq_ok.mp run
    split at run
    · rename_i errors
      cases run
      exact .rejected parsed spliced errors
    · rename_i clean
      have clean := Bool.eq_false_iff.mpr clean
      split at run
      · rename_i none
        cases run
        exact .quiet parsed spliced clean (List.isEmpty_iff.mp none)
      · rename_i requested
        obtain ⟨text, made, run⟩ := bind_eq_ok.mp run
        cases run
        exact .printed parsed spliced clean (fun none => requested (List.isEmpty_iff.mpr none))
          (Rendering.orBreakdown_eq_ok.mp made)

/-- A source that can be parsed reports what its module does. -/
theorem transform_parsed {t : Transformed} (parsed : Module.parse source = .ok m)
    (run : transform settings source = .ok t) :
    (∃ s, m.splice settings = .ok s ∧ t.expansions = s.expansions ∧
        t.diagnostics = s.expansions.flatMap Expansion.diagnostics) ∧
      t.source.isSome = !t.hasErrors := by
  cases Transformed.ends_of_transform run with
  | malformed again => cases parsed.symm.trans again
  | @rejected _ s again spliced errors =>
    cases parsed.symm.trans again
    exact ⟨⟨s, spliced, rfl, rfl⟩, (congrArg not errors).symm⟩
  | @quiet _ s again spliced _ none =>
    cases parsed.symm.trans again
    exact ⟨⟨s, spliced, none.symm, by rw [none]; rfl⟩, rfl⟩
  | @printed _ s text again spliced clean =>
    cases parsed.symm.trans again
    exact ⟨⟨s, spliced, rfl, rfl⟩, (congrArg not clean).symm⟩

theorem transform_malformed {t : Transformed} {f : SourceFault} (malformed : Module.parse source = .error f)
    (run : transform settings source = .ok t) :
    ∃ known, f.asBreakdown = .ok known ∧ t = ⟨none, [], [Diagnostic.ofFault known]⟩ := by
  cases Transformed.ends_of_transform run with
  | @malformed _ known again told =>
    cases malformed.symm.trans again
    exact ⟨known, told, rfl⟩
  | rejected again => cases malformed.symm.trans again
  | quiet again => cases malformed.symm.trans again
  | printed again => cases malformed.symm.trans again

/-- A transformed source has a new text unless there is an error, and all that is reported are errors. -/
theorem transform_verdict {t : Transformed} (run : transform settings source = .ok t) :
    (∀ d ∈ t.diagnostics, d.isError = true) ∧ t.source.isSome = !t.hasErrors := by
  cases parsed : Module.parse source with
  | error f =>
    obtain ⟨known, _, rfl⟩ := transform_malformed parsed run
    refine ⟨fun other reported => ?_, rfl⟩
    rw [List.mem_singleton.mp reported]
    rfl
  | ok m =>
    obtain ⟨⟨s, spliced, _, same⟩, present⟩ := transform_parsed parsed run
    exact ⟨fun d reported => (Module.splice_answered spliced).1.isError (same ▸ reported), present⟩

theorem GeneratedFile.render_rejected {here : Directory} {path : FilePath} {ds : List Diagnostic} :
    GeneratedFile.render here path settings source = .error (.rejected ds) ↔
      ∃ t, transform settings source = .ok t ∧ t.source = none ∧ t.diagnostics = ds := by
  unfold GeneratedFile.render
  rw [bind_eq_error]
  constructor
  · rintro (broken | ⟨t, run, rejected⟩)
    · obtain ⟨b, _, other⟩ := mapError_eq_error.mp broken
      cases other
    · refine ⟨t, mapError_eq_ok.mp run, ?_⟩
      split at rejected
      · rename_i absent
        cases rejected
        exact ⟨absent, rfl⟩
      · cases rejected
  · rintro ⟨t, run, absent, rfl⟩
    refine Or.inr ⟨t, mapError_eq_ok.mpr run, ?_⟩
    rw [absent]

/-- A module is spliced with one expansion for each annotated declaration, in the order of their places; each
has all that is generated for a classified record, or one error, and with an error the module stays as it was.
A source that is transformed has a new text and no error, or no new text and an error; if it can be parsed,
what is reported are the errors of the expansions in their order. Rendering a file rejects the source exactly
if there is no new text, with the same report. -/
theorem transform_all_or_nothing (settings : Settings) :
    (∀ m s, Module.splice settings m = .ok s →
      m.Answered settings s.expansions ∧ (s.hasErrors = true → s.module = m)) ∧
    (∀ source t, transform settings source = .ok t →
      Xor (t.source.isSome = true ∧ ∀ d ∈ t.diagnostics, d.isError = false)
        (t.source = none ∧ ∃ d ∈ t.diagnostics, d.isError = true) ∧
      ∀ m, Module.parse source = .ok m → ∃ s, m.splice settings = .ok s ∧ t.expansions = s.expansions ∧
        t.diagnostics = s.expansions.flatMap Expansion.diagnostics) ∧
    ∀ here path source ds, GeneratedFile.render here path settings source = .error (.rejected ds) ↔
      ∃ t, transform settings source = .ok t ∧ t.source = none ∧ t.diagnostics = ds := by
  refine ⟨fun m s => Module.splice_answered, fun source t run => ⟨?_, fun m parsed => (transform_parsed parsed run).1⟩,
    fun here path source ds => GeneratedFile.render_rejected⟩
  have present := (transform_verdict run).2
  cases errors : t.hasErrors with
  | true =>
    rw [errors] at present
    have found : ∃ d ∈ t.diagnostics, d.isError = true := List.any_eq_true.mp errors
    refine Or.inr ⟨⟨Option.isNone_iff_eq_none.mp (by simpa using present), found⟩, ?_⟩
    rintro ⟨some, _⟩
    rw [present] at some
    cases some
  | false =>
    rw [errors] at present
    have clean : ∀ d ∈ t.diagnostics, d.isError = false := by
      simpa [Transformed.hasErrors] using errors
    refine Or.inl ⟨⟨present, clean⟩, ?_⟩
    rintro ⟨none, _⟩
    rw [none] at present
    cases present

theorem Module.parse_question : Module.parse "?" = .error (.malformed ⟨.syntactic, "invalid syntax", 1, 1⟩) := by
  have shape : ∀ (read : Except SourceFault Module) (f : SyntaxFault),
      (read.mapError (·.asBreakdown.toOption)).map (fun _ => ()) = .error (some f) → read = .error (.malformed f) := by
    rintro (cause | m) f told
    · cases cause with
      | malformed g =>
        cases told
        rfl
      | unencodable g => cases told
      | nullCharacter => cases told
    · cases told
  exact shape _ _ (by decide +kernel)

/-- A module with a record, and inside a class a record that is refused. -/
def Module.mixed : Module where
  body :=
    [.classDef ⟨2, 0⟩ "P" [] [] [⟨⟨1, 1⟩, .name "derive_builder"⟩]
        [.simple ⟨3, 4⟩ (.annotated (.name "x") ⟨3, 4⟩ true (.name "int") none)],
      .classDef ⟨4, 0⟩ "Q" [] [] []
        [.classDef ⟨6, 4⟩ "R" [] [] [⟨⟨5, 5⟩, .name "derive_builder"⟩] [.simple ⟨6, 13⟩ .pass]]]

theorem Module.splice_mixed : ∃ s, Module.mixed.splice .default = .ok s ∧
    s.expansions.map (·.generated.isSome) = [true, false] ∧ s.hasErrors = true := by
  have found : Module.mixed.body.flatMap (Request.ofTopLevel Settings.default.activationName.val) = [_, _] := rfl
  have sorted : Module.mixed.requests Settings.default.activationName.val = [_, _] :=
    (congrArg (List.mergeSort · Request.before) found).trans (List.mergeSort_of_pairwise (List.pairwise_pair.mpr rfl))
  obtain ⟨es, expanded, generated, errors⟩ : ∃ es, Module.mixed.expandAll .default = .ok es ∧
      es.map (·.generated.isSome) = [true, false] ∧ (Splice.mk Module.mixed es).hasErrors = true := by
    rw [Module.expandAll, sorted]
    exact ⟨_, rfl, rfl, rfl⟩
  refine ⟨⟨Module.mixed, es⟩, ?_, generated, errors⟩
  simp only [Module.splice, expanded, errors, Bool.true_or, if_true, bind, Except.bind]

theorem transform_all_or_nothing_samples :
    (∃ s, Module.mixed.splice .default = .ok s ∧ Module.mixed.Answered .default s.expansions ∧
      s.expansions.map (·.generated.isSome) = [true, false] ∧ s.module = Module.mixed) ∧
    (∃ t, transform .default "?" = .ok t ∧ t.source = none ∧ ∃ d ∈ t.diagnostics, d.isError = true) ∧
    ∃ t, transform .default [] = .ok t ∧ t.source.isSome = true ∧ ∀ d ∈ t.diagnostics, d.isError = false := by
  obtain ⟨spliced, transformed, _⟩ := transform_all_or_nothing .default
  refine ⟨?_, ?_, ?_⟩
  · obtain ⟨s, run, generated, errors⟩ := Module.splice_mixed
    obtain ⟨answered, kept⟩ := spliced Module.mixed s run
    exact ⟨s, run, answered, generated, kept errors⟩
  · have run : transform .default "?" = .ok ⟨none, [], [Diagnostic.ofFault ⟨.syntactic, "invalid syntax", 1, 1⟩]⟩ := by
      rw [transform, Module.parse_question]
      rfl
    refine ⟨_, run, ?_⟩
    rcases (transformed _ _ run).1 with ⟨⟨some, _⟩, _⟩ | ⟨second, _⟩
    · cases some
    · exact second
  · have run : transform .default [] = .ok ⟨some [], [], []⟩ :=
      Module.transform_quiet Module.parse_nil (Module.requests_nil _)
    refine ⟨_, run, ?_⟩
    rcases (transformed _ _ run).1 with ⟨first, _⟩ | ⟨⟨none, _⟩, _⟩
    · exact first
    · cases none

end FluentRecords
