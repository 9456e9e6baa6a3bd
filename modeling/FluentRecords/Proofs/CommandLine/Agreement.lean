import FluentRecords.Proofs.CommandLine.Rerun
import FluentRecords.Proofs.Splice.Pairs

/-!
Both commands on one file. They report the same faults at the same places, or none; and where there are none,
what one of them shows of the records comes one by one with the pairs of records and builders in the module
that the other one generates.
-/

namespace FluentRecords

/-- A message and where it belongs, as both commands show it. -/
structure Located where
  line : Int
  column : Int
  message : Text
deriving DecidableEq

/-- What is shown of a diagnostic. -/
def Diagnostic.located (d : Diagnostic) : Located :=
  ⟨d.line, d.column + 1, d.message⟩

/-- The line that reports an error in a file. -/
def Located.errorLine (path : Text) (l : Located) : Text :=
  path ++ ":" ++ (Text.ofInt l.line ++ ":" ++ Text.ofInt l.column) ++ ": error: " ++ l.message

theorem Diagnostic.render_eq_errorLine {d : Diagnostic} (error : d.isError = true) (path : Text) :
    d.render (some path) = d.located.errorLine path := by
  have severity : d.severity = .error := of_decide_eq_true error
  have mark : Text.ofString ": error: " = Text.ofString ": " ++ (Severity.error.text ++ Text.ofString ": ") := by decide
  simp only [render, severity, Located.errorLine, located, mark, List.append_assoc]

theorem Diagnostic.map_render {ds : List Diagnostic} (errors : ∀ d ∈ ds, d.isError = true) (path : Text) :
    ds.map (·.render (some path)) = (ds.map located).map (Located.errorLine path) := by
  rw [List.map_map]
  exact List.map_congr_left fun d member => render_eq_errorLine (errors d member) path

namespace Json

/-- The member of an object under a name. -/
def member? (name : String) : Json → Option Json
  | obj members => (members.find? (·.1 == Text.ofString name)).map (·.2)
  | _ => none

/-- The elements of an array. -/
def elements : Json → List Json
  | arr elems => elems
  | _ => []

/-- A string as a text. -/
def text? : Json → Option Text
  | str t => some t
  | _ => none

/-- A number. -/
def int? : Json → Option Int
  | int i => some i
  | _ => none

/-- The text of a member of an object. -/
def textAt? (name : String) (v : Json) : Option Text :=
  (v.member? name).bind text?

/-- The number in a member of an object. -/
def intAt? (name : String) (v : Json) : Option Int :=
  (v.member? name).bind int?

/-- The elements in a member of an object. -/
def elementsAt (name : String) (v : Json) : List Json :=
  ((v.member? name).map elements).getD []

/-- The message that an object holds with its place. -/
def located? (v : Json) : Option Located :=
  match v.intAt? "line", v.intAt? "column", v.textAt? "message" with
  | some line, some column, some message => some ⟨line, column, message⟩
  | _, _, _ => none

end Json

theorem Text.ofString_inj {s t : String} : Text.ofString s = Text.ofString t ↔ s = t := by
  have characters : Function.Injective Char.toNat := fun c d same => Char.ext (UInt32.toNat_inj.mp same)
  rw [ofString, ofString, List.map_inj_right fun _ _ same => characters same, String.toList_inj]

namespace Inspect

variable {e : Expansion} {v : Json}

/-- An object has its members under their names. -/
theorem member?_object (name : String) (members : List (String × Json)) :
    (object members).member? name = (members.find? (·.1 == name)).map (·.2) := by
  have names : ∀ m : String × Json, (Text.ofString m.1 == Text.ofString name) = (m.1 == name) := fun m => by
    rw [Bool.eq_iff_iff, beq_iff_eq, beq_iff_eq, Text.ofString_inj]
  simp only [object, Json.member?, List.find?_map, Function.comp_def, names, Option.map_map]

theorem located?_diagnosticJson (d : Diagnostic) : (diagnosticJson d).located? = some d.located := by
  simp [Json.located?, Json.intAt?, Json.textAt?, diagnosticJson, member?_object, Json.int?, Json.text?,
    Diagnostic.located]

theorem text?_optional (t : Option Text) : (optional t).text? = t := by
  cases t <;> rfl

/-- What an expansion shows of its record, its builder, its fields and its diagnostics. -/
structure Shows (v : Json) (e : Expansion) : Prop where
  record : v.textAt? "record" = e.name
  builder : v.textAt? "builder" = e.generated.map (·.builder.name)
  fields : (v.elementsAt "fields").map (·.textAt? "name") =
    ((e.generated.map (·.record.names)).getD []).map some
  diagnostics : (v.elementsAt "diagnostics").map Json.located? = e.diagnostics.map (some ·.located)

theorem names_of_fieldJson {fs : List Field} {vs : List Json} (listed : fs.mapM fieldJson = .ok vs) :
    vs.map (·.textAt? "name") = (fs.map Field.name).map some := by
  have each := mapM_eq_ok.mp listed
  clear listed
  induction each with
  | nil => rfl
  | @cons f v fs vs shown _ ih =>
    obtain ⟨declared, _, shown⟩ := bind_eq_ok.mp shown
    obtain ⟨type, _, shown⟩ := bind_eq_ok.mp shown
    cases shown
    simpa [Json.textAt?, member?_object, Json.text?] using ih

theorem expansionJson_shows (shown : expansionJson e = .ok v) : Shows v e := by
  obtain ⟨fields, names, rfl⟩ : ∃ fields,
      fields.map (·.textAt? "name") = ((e.generated.map (·.record.names)).getD []).map some ∧
      v = object [("record", optional e.name), ("builder", optional (e.generated.map (·.builder.name))),
        ("fields", .arr fields), ("diagnostics", .arr (e.diagnostics.map diagnosticJson))] := by
    unfold expansionJson at shown
    cases generated : e.generated with
    | none =>
      rw [generated] at shown
      cases shown
      exact ⟨[], rfl, rfl⟩
    | some g =>
      rw [generated] at shown
      obtain ⟨fields, listed, shown⟩ := bind_eq_ok.mp shown
      cases shown
      exact ⟨fields, names_of_fieldJson listed, rfl⟩
  constructor
  · simp [Json.textAt?, member?_object, text?_optional]
  · simp [Json.textAt?, member?_object, text?_optional]
  · simpa [Json.elementsAt, member?_object, Json.elements] using names
  · simp [Json.elementsAt, member?_object, Json.elements, located?_diagnosticJson]

/-- A value shows a record and its builder under their names, and as fields the setters of the builder. -/
structure Matches (v : Json) (pair : ClassDecl × ClassDecl) : Prop where
  record : v.textAt? "record" = some pair.1.name
  builder : v.textAt? "builder" = some pair.2.name
  fields : (v.elementsAt "fields").map (·.textAt? "name") = pair.2.setterNames.map some

theorem Shows.matches {pair : ClassDecl × ClassDecl} (shown : Shows v e) (presents : e.Presents pair) :
    Matches v pair where
  record := shown.record.trans presents.record
  builder := shown.builder.trans presents.builder
  fields := by rw [shown.fields, presents.setters, Option.getD_some]

variable {es : List Expansion} {values : List Json}

/-- What is shown of expansions matches what these present. -/
theorem matches_of_presents (shown : es.mapM expansionJson = .ok values) {pairs : List (ClassDecl × ClassDecl)}
    (presents : List.Forall₂ Expansion.Presents es pairs) : List.Forall₂ Matches values pairs := by
  have each := mapM_eq_ok.mp shown
  clear shown
  induction each generalizing pairs with
  | nil =>
    cases presents
    exact .nil
  | cons first _ ih =>
    cases presents with
    | cons presents others => exact .cons ((expansionJson_shows first).matches presents) (ih others)

/-- All diagnostics are shown, in their order. -/
theorem located_of_expansionJson (shown : es.mapM expansionJson = .ok values) :
    values.flatMap (fun v => (v.elementsAt "diagnostics").map Json.located?) =
      ((es.flatMap Expansion.diagnostics).map Diagnostic.located).map some := by
  have each := mapM_eq_ok.mp shown
  clear shown
  induction each with
  | nil => rfl
  | cons first _ ih =>
    simp only [List.flatMap_cons, ih, (expansionJson_shows first).diagnostics, List.map_append, List.map_map,
      Function.comp_def]

end Inspect

/-- No run ends with an error that is not caught. -/
def Report.Caught (r : Report) : Prop :=
  ∀ message, r.stop ≠ some (.failed message)

theorem Report.caught_reported (tree : FileTree) (lines : List Text) : (Report.stopped tree (.reported lines)).Caught :=
  fun _ failed => by cases failed

theorem Report.caught_none (out : List Text) (tree : FileTree) : (Report.mk out none tree).Caught :=
  fun _ failed => by cases failed

theorem transform_hasErrors {settings : Settings} {source : Text} {t : Transformed}
    (run : transform settings source = .ok t) : t.hasErrors = true ↔ t.diagnostics ≠ [] := by
  rw [Transformed.hasErrors, List.any_eq_true]
  constructor
  · rintro ⟨d, member, _⟩
    exact List.ne_nil_of_mem member
  · intro some
    obtain ⟨d, member⟩ := List.exists_mem_of_ne_nil _ some
    exact ⟨d, member, (transform_verdict run).1 d member⟩

/-- A source is transformed unless something is reported. -/
theorem transform_source_eq_none {settings : Settings} {source : Text} {t : Transformed}
    (run : transform settings source = .ok t) : t.source = none ↔ t.diagnostics ≠ [] := by
  rw [← transform_hasErrors run, ← Option.not_isSome_iff_eq_none, (transform_verdict run).2]
  simp

namespace Generate

variable {tree : FileTree} {here : Directory} {o : Order}

/-- The default options give the default settings. -/
def Order.Plain (o : Order) : Prop :=
  o.check = false ∧ o.options = [(Setting.collectMissing.key, .bool false)]

theorem Order.Plain.settings (plain : o.Plain) : Settings.ofOptions o.options = .ok .default := by
  rw [plain.2]
  rfl

theorem store_caught {path : FilePath} {text : Text} (caught : (store tree here path text).Caught) :
    (store tree here path text).stop = none :=
  (store_stop tree here path text).resolve_right fun ⟨message, failed⟩ => caught message failed

theorem Order.Plain.render_of_faults (plain : o.Plain) {source : Text} {t : Transformed}
    (read : tree.readText here (FilePath.ofText o.input).text = .ok source)
    (transformed : transform .default source = .ok t) (absent : t.source = none) :
    Generate.render tree here o =
      .error (.reported (t.diagnostics.map (·.render (some (FilePath.ofText o.input).text)))) := by
  have rejected : GeneratedFile.render here (FilePath.ofText o.input) .default source = _ :=
    GeneratedFile.render_rejected.mpr ⟨t, transformed, absent, rfl⟩
  simp only [Generate.render, plain.settings, read, rejected, Except.mapError, bind, Except.bind]

/-- Rendering ends with an uncaught error, or with the faults of the source. -/
theorem Order.Plain.render_error (plain : o.Plain) {s : Stop} (failed : Generate.render tree here o = .error s) :
    (∃ message, s = .failed message) ∨
      ∃ source t, tree.readText here (FilePath.ofText o.input).text = .ok source ∧
        transform .default source = .ok t ∧ t.source = none ∧
        s = .reported (t.diagnostics.map (·.render (some (FilePath.ofText o.input).text))) := by
  refine (render_eq_error failed).imp_right fun ⟨settings, source, ds, given, read, rejected, same⟩ => ?_
  cases plain.settings.symm.trans given
  obtain ⟨t, transformed, absent, rfl⟩ := GeneratedFile.render_rejected.mp rejected
  exact ⟨source, t, read, transformed, absent, same⟩

/-- How a run without an uncaught error ends: with the faults of the source, or with a text. -/
theorem Order.Plain.carryOut (plain : o.Plain) (caught : (o.carryOut tree here).Caught) :
    ∃ source t, tree.readText here (FilePath.ofText o.input).text = .ok source ∧
      transform .default source = .ok t ∧
      ((t.source = none ∧ o.carryOut tree here =
          .stopped tree (.reported (t.diagnostics.map (·.render (some (FilePath.ofText o.input).text))))) ∨
        (∃ body, t.source = some body ∧ (o.carryOut tree here).stop = none ∧
          Generate.render tree here o = .ok (GeneratedFile.header ((FilePath.ofText o.input).label here)
            (GeneratedFile.digest .default (GeneratedFile.bytes source)) ++ body))) := by
  cases rendered : Generate.render tree here o with
  | ok text =>
    obtain ⟨settings, source, given, read, made⟩ := render_eq_ok.mp rendered
    cases plain.settings.symm.trans given
    obtain ⟨t, body, transformed, present, rfl⟩ := GeneratedFile.render_eq_ok.mp made
    refine ⟨source, t, read, transformed, Or.inr ⟨body, present, ?_, rfl⟩⟩
    rw [carryOut_eq rendered plain.1] at caught ⊢
    cases stays : mayStay tree here (FilePath.ofText o.output).text _ with
    | error s =>
      obtain ⟨message, rfl⟩ := mayStay_failed stays
      rw [stays] at caught
      exact absurd rfl (caught message)
    | ok stay =>
      rw [stays] at caught
      cases stay with
      | true => rfl
      | false => exact store_caught caught
  | error s =>
    rw [Order.carryOut, rendered] at caught ⊢
    rcases plain.render_error rendered with ⟨message, rfl⟩ | ⟨source, t, read, transformed, absent, rfl⟩
    · exact absurd rfl (caught message)
    · exact ⟨source, t, read, transformed, Or.inl ⟨absent, rfl⟩⟩

end Generate

namespace Inspect

variable {tree : FileTree} {here : Directory} {words : List Text} {q : Order} {source : Text} {t : Transformed}

theorem expansions_of_malformed {f : SourceFault} (read : tree.readText here (FilePath.ofText q.file).text = .ok source)
    (malformed : Module.parse source = .error f) (transformed : transform .default source = .ok t) :
    expansions tree here q.file =
      .error (.reported (t.diagnostics.map (·.render (some (FilePath.ofText q.file).text)))) := by
  obtain ⟨known, told, rfl⟩ := transform_malformed malformed transformed
  simp only [expansions, read, malformed, told, Except.mapError, bind, Except.bind, List.map_cons, List.map_nil]

theorem expansions_of_parsed {m : Module} {es : List Expansion}
    (read : tree.readText here (FilePath.ofText q.file).text = .ok source) (parsed : Module.parse source = .ok m)
    (expanded : m.expandAll .default = .ok es) : expansions tree here q.file = .ok es := by
  simp only [expansions, read, parsed, expanded, Except.mapError, bind, Except.bind]

/-- How an inspection without an uncaught error ends: with the fault of the source, or with its expansions. -/
theorem run_caught (asked : Order.read tree here words = .ok q) (caught : (run tree here words).Caught)
    (read : tree.readText here (FilePath.ofText q.file).text = .ok source)
    (transformed : transform .default source = .ok t) :
    (∃ f, Module.parse source = .error f ∧ run tree here words =
        .stopped tree (.reported (t.diagnostics.map (·.render (some (FilePath.ofText q.file).text))))) ∨
      ∃ m s lines, Module.parse source = .ok m ∧ m.splice .default = .ok s ∧
        t.diagnostics = s.expansions.flatMap Expansion.diagnostics ∧
        run tree here words =
          ⟨lines, if s.expansions.any Expansion.hasErrors then some (.reported []) else none, tree⟩ ∧
        (q.json = true → ∃ values, s.expansions.mapM expansionJson = .ok values ∧
          lines = [Json.render 0 (.arr values)]) := by
  cases parsed : Module.parse source with
  | error f =>
    refine Or.inl ⟨f, rfl, ?_⟩
    rw [run, asked]
    dsimp only
    rw [expansions_of_malformed read parsed transformed]
  | ok m =>
    obtain ⟨⟨s, spliced, _, diagnostics⟩, _⟩ := transform_parsed parsed transformed
    have answered := expansions_of_parsed (q := q) read parsed (Module.splice_expansions spliced)
    cases printed : print q.json s.expansions with
    | mk lines b =>
      cases b with
      | some b =>
        have failed : run tree here words = ⟨lines, some (.failed b.message), tree⟩ := by
          simp only [run, asked, answered, printed]
        exact absurd (congrArg Report.stop failed) (caught b.message)
      | none =>
        have ran : run tree here words =
            ⟨lines, if s.expansions.any Expansion.hasErrors then some (.reported []) else none, tree⟩ := by
          simp only [run, asked, answered, printed]
        refine Or.inr ⟨m, s, lines, rfl, spliced, diagnostics, ran, fun json => ?_⟩
        rw [print, json, if_pos rfl] at printed
        split at printed
        · rename_i values listed
          cases printed
          exact ⟨values, listed, rfl⟩
        · cases printed

end Inspect

/-- A generated file: behind its header the source as it is, where nothing is requested in it, or the module
with the pairs of records and builders in place of the records. -/
inductive GeneratedFile.Holds (header source : Text) : Text → List (ClassDecl × ClassDecl) → Prop
  | unchanged {m : Module} (parsed : Module.parse source = .ok m)
      (quiet : m.requests Settings.default.activationName.val = []) : Holds header source (header ++ source) []
  | spliced {m : Module} {es : List Expansion} {parts : List (List Stmt)} {body : Text}
      (parsed : Module.parse source = .ok m) (expanded : m.expandAll .default = .ok es)
      (replaced : List.Forall₂ (Splice.Replaced .default es) (m.body.drop m.importIndex) parts)
      (printed : (Module.mk (m.body.take m.importIndex ++ Emission.supportImport :: parts.flatten)).text = .ok body) :
      Holds header source (header ++ (body ++ Text.ofString "\n")) (parts.filterMap Splice.pair?)

namespace Program

/-- Two command lines for one file: one generates from it with the default options, one shows its records. -/
structure OneFile (tree : FileTree) (here : Directory) (generating inspecting : List Text) (o : Generate.Order)
    (q : Inspect.Order) : Prop where
  generates : ∃ rest, readOptions generating >>= resolve = .ok (.generate, rest) ∧
    Generate.Order.read tree here rest = .ok o
  plain : o.Plain
  inspects : ∃ rest, readOptions inspecting >>= resolve = .ok (.inspect, rest) ∧
    Inspect.Order.read tree here rest = .ok q
  file : q.file = o.input

variable {tree : FileTree} {here : Directory} {generating inspecting : List Text} {o : Generate.Order}
  {q : Inspect.Order}

theorem OneFile.report_generating (asked : OneFile tree here generating inspecting o q) :
    report tree here generating = o.carryOut tree here := by
  obtain ⟨rest, called, read⟩ := asked.generates
  rw [report_called called, perform, Generate.run, read]

/-- The text that a source without faults is transformed into holds pairs of records and builders, and what is
shown of the expansions matches them one by one. -/
theorem holds_of_clean {header source body : Text} {t : Transformed} {m : Module} {s : Splice} {values : List Json}
    (parsed : Module.parse source = .ok m) (spliced : m.splice .default = .ok s)
    (transformed : transform .default source = .ok t) (present : t.source = some body)
    (shown : s.expansions.mapM Inspect.expansionJson = .ok values) :
    ∃ pairs, GeneratedFile.Holds header source (header ++ body) pairs ∧ List.Forall₂ Inspect.Matches values pairs := by
  have expanded := Module.splice_expansions spliced
  cases Transformed.ends_of_transform transformed with
  | malformed => cases present
  | rejected => cases present
  | quiet parsed' spliced' _ none =>
    cases parsed.symm.trans parsed'
    cases spliced.symm.trans spliced'
    cases present
    rw [none] at expanded shown
    cases shown
    exact ⟨[], .unchanged parsed ((Module.expandAll_eq_nil expanded).mp rfl), .nil⟩
  | printed parsed' spliced' clean requested made =>
    cases parsed.symm.trans parsed'
    cases spliced.symm.trans spliced'
    cases present
    rcases Module.splice_presents (Module.ordered_of_parse parsed) spliced clean with rfl |
      ⟨_, parts, replacedBody, replaced, presents⟩
    · exact absurd rfl requested
    · have matching := Inspect.matches_of_presents shown presents
      refine ⟨parts.filterMap Splice.pair?, .spliced parsed expanded replaced ?_, matching⟩
      rw [← replacedBody]
      exact made

/-- A run that ends with faults, or without a stop where there are none, reports them and fails if there are any. -/
theorem ending_of_faults (entry : Entry) {out : Text} {stop : Option Stop} {faults : List Located} {path : Text}
    (ended : (faults ≠ [] ∧ stop = some (.reported (faults.map (Located.errorLine path)))) ∨
      faults = [] ∧ stop = none) :
    ((ending entry out stop).code = 1 ↔ faults ≠ []) ∧
      (ending entry out stop).err = unlines (faults.map (Located.errorLine path)) := by
  rcases ended with ⟨some, rfl⟩ | ⟨rfl, rfl⟩
  · exact ⟨iff_of_true rfl some, rfl⟩
  · exact ⟨iff_of_false Nat.zero_ne_one fun some => some rfl, rfl⟩

/-- A generation stops with the faults of its source exactly if there are any. -/
theorem stop_of_ended {t : Transformed} {r : Report} {faults : List Located} {path : Text} {rendered : Text → Prop}
    (faulty : t.source = none ↔ faults ≠ [])
    (ended : (t.source = none ∧ r = .stopped tree (.reported (faults.map (Located.errorLine path)))) ∨
      ∃ body, t.source = some body ∧ r.stop = none ∧ rendered body) :
    (faults ≠ [] ∧ r.stop = some (.reported (faults.map (Located.errorLine path)))) ∨
      faults = [] ∧ r.stop = none := by
  rcases ended with ⟨absent, rfl⟩ | ⟨body, present, stopped, _⟩
  · exact Or.inl ⟨faulty.mp absent, rfl⟩
  · refine Or.inr ⟨?_, stopped⟩
    by_contra some
    cases present.symm.trans (faulty.mpr some)

/-- A run that only tells whether it failed prints nothing but its lines. -/
theorem ending_of_flag (entry : Entry) (out : Text) (failed : Bool) :
    ((ending entry out (if failed then some (.reported []) else none)).code = 1 ↔ failed = true) ∧
      (ending entry out (if failed then some (.reported []) else none)).err = [] ∧
      (ending entry out (if failed then some (.reported []) else none)).out = out := by
  cases failed with
  | true => exact ⟨iff_of_true rfl rfl, rfl, rfl⟩
  | false => exact ⟨iff_of_false Nat.zero_ne_one Bool.false_ne_true, rfl, rfl⟩

/-- On one file that can be read, with no uncaught error, both commands report the same faults in the same order,
each at its place, or none. Where the source is malformed both print the same line. Where it is not, an
inspection fails exactly if there are faults, and as JSON they are what is shown of all expansions; without
faults the values that are shown come one by one, and in order, with the pairs of a record and its builder in the
generated file. -/
theorem commands_agree (entry : Entry) (asked : OneFile tree here generating inspecting o q)
    (generates : (report tree here generating).Caught) (inspects : (report tree here inspecting).Caught) :
    let made := (run entry tree here generating).1
    let seen := (run entry tree here inspecting).1
    ∃ source located, tree.readText here (FilePath.ofText o.input).text = .ok source ∧
      (made.code = 1 ↔ located ≠ []) ∧ (seen.code = 1 ↔ located ≠ []) ∧
      made.err = unlines (located.map (Located.errorLine (FilePath.ofText o.input).text)) ∧
      ((∃ f, Module.parse source = .error f ∧ seen = made) ∨
        (∃ m, Module.parse source = .ok m) ∧ seen.err = [] ∧ (q.json = true →
          ∃ values, seen.out = unlines [Json.render 0 (.arr values)] ∧
            values.flatMap (fun v => (v.elementsAt "diagnostics").map Json.located?) = located.map some ∧
            (located = [] → ∃ text pairs, Generate.render tree here o = .ok text ∧
              GeneratedFile.Holds (GeneratedFile.header ((FilePath.ofText o.input).label here)
                (GeneratedFile.digest .default (GeneratedFile.bytes source))) source text pairs ∧
              List.Forall₂ Inspect.Matches values pairs))) := by
  have carried := asked.report_generating
  obtain ⟨source, t, read, transformed, ended⟩ := asked.plain.carryOut (carried ▸ generates)
  obtain ⟨rest, called, asks⟩ := asked.inspects
  have inspected : report tree here inspecting = Inspect.run tree here rest := report_called called
  have shown := Inspect.run_caught asks (inspected ▸ inspects) (asked.file ▸ read) transformed
  have lines := Diagnostic.map_render (transform_verdict transformed).1 (FilePath.ofText o.input).text
  rw [asked.file, lines] at shown
  rw [lines] at ended
  simp only [run, carried, inspected]
  have faulty : t.source = none ↔ t.diagnostics.map Diagnostic.located ≠ [] := by
    rw [transform_source_eq_none transformed, ne_eq, ne_eq, List.map_eq_nil_iff]
  obtain ⟨code, err⟩ := ending_of_faults entry (stop_of_ended faulty ended)
  refine ⟨source, t.diagnostics.map Diagnostic.located, read, code, ?_, err, ?_⟩
  · rw [ne_eq, List.map_eq_nil_iff, ← ne_eq]
    rcases shown with ⟨f, malformed, stopped⟩ | ⟨m, s, out, _, _, diagnostics, stopped, _⟩
    · obtain ⟨_, _, rfl⟩ := transform_malformed malformed transformed
      rw [stopped]
      exact iff_of_true rfl (List.cons_ne_nil _ _)
    · have failing : s.expansions.any Expansion.hasErrors = t.hasErrors := by
        rw [Transformed.hasErrors, diagnostics, List.any_flatMap]
        rfl
      rw [stopped, ← transform_hasErrors transformed, ← failing]
      exact (ending_of_flag entry (unlines out) _).1
  · rcases shown with ⟨f, malformed, stopped⟩ | ⟨m, s, out, parsed, spliced, diagnostics, stopped, json⟩
    · refine Or.inl ⟨f, malformed, ?_⟩
      obtain ⟨_, _, rfl⟩ := transform_malformed malformed transformed
      rcases ended with ⟨_, same⟩ | ⟨body, present, _⟩
      · rw [stopped, same]
      · cases present
    · obtain ⟨_, silent, shows⟩ := ending_of_flag entry (unlines out) (s.expansions.any Expansion.hasErrors)
      rw [stopped]
      refine Or.inr ⟨⟨m, parsed⟩, silent, fun asks => ?_⟩
      obtain ⟨values, listed, rfl⟩ := json asks
      refine ⟨values, shows, ?_, fun clean => ?_⟩
      · rw [Inspect.located_of_expansionJson listed, diagnostics]
      · rcases ended with ⟨absent, _⟩ | ⟨body, present, _, rendered⟩
        · exact absurd clean (faulty.mp absent)
        · obtain ⟨pairs, holds, matching⟩ := holds_of_clean parsed spliced transformed present listed
          exact ⟨_, pairs, rendered, holds, matching⟩

/-- A file that is no module, and nothing else. -/
def questionTree : FileTree :=
  ⟨[([Text.ofString "models.py"], .file [63])]⟩

/-- The words that ask for the records of a file as JSON. -/
def inspectWords : List Text :=
  ["inspect", "models.py", "--json"]

theorem oneFile_question : OneFile questionTree [] ("generate" :: Generate.emptyWords) inspectWords
    Generate.emptyOrder ⟨"models.py", true⟩ where
  generates := ⟨_, rfl, rfl⟩
  plain := ⟨rfl, rfl⟩
  inspects := ⟨_, rfl, rfl⟩
  file := rfl

theorem oneFile_empty : OneFile (Generate.besideEmpty []) [] ("generate" :: Generate.emptyWords) inspectWords
    Generate.emptyOrder ⟨"models.py", true⟩ where
  generates := ⟨_, rfl, Generate.read_empty⟩
  plain := ⟨rfl, rfl⟩
  inspects := ⟨_, rfl, rfl⟩
  file := rfl

/-- What is wrong with the file that is no module. -/
def questionFault : Diagnostic :=
  Diagnostic.ofFault ⟨.syntactic, "invalid syntax", 1, 1⟩

theorem report_question :
    report questionTree [] ("generate" :: Generate.emptyWords) =
        .stopped questionTree (.reported [questionFault.render (some (FilePath.ofText "models.py").text)]) ∧
      report questionTree [] inspectWords =
        .stopped questionTree (.reported [questionFault.render (some (FilePath.ofText "models.py").text)]) := by
  have read : questionTree.readText [] (FilePath.ofText "models.py").text = .ok "?" := rfl
  have transformed : transform .default "?" = .ok ⟨none, [], [questionFault]⟩ := by
    rw [transform, Module.parse_question]
    rfl
  constructor
  · rw [oneFile_question.report_generating, Generate.Order.carryOut]
    rw [oneFile_question.plain.render_of_faults read transformed rfl]
    rfl
  · obtain ⟨rest, called, asks⟩ := oneFile_question.inspects
    rw [report_called called, perform, Inspect.run, asks]
    dsimp only
    rw [Inspect.expansions_of_malformed (q := ⟨"models.py", true⟩) read Module.parse_question transformed]
    rfl

theorem report_inspect_empty :
    report (Generate.besideEmpty []) [] inspectWords = ⟨[Json.render 0 (.arr [])], none, Generate.besideEmpty []⟩ := by
  have none : (Module.mk []).expandAll .default = .ok [] := by
    rw [Module.expandAll, Module.requests_nil]
    rfl
  obtain ⟨rest, called, asks⟩ := oneFile_empty.inspects
  rw [report_called called, perform, Inspect.run, asks]
  dsimp only
  rw [Inspect.expansions_of_parsed (q := ⟨"models.py", true⟩) rfl Module.parse_nil none]
  rfl

theorem commands_agree_samples :
    (∃ located, located ≠ [] ∧
      (run .user questionTree [] ("generate" :: Generate.emptyWords)).1.err =
        unlines (located.map (Located.errorLine "models.py")) ∧
      (run .user questionTree [] inspectWords).1 =
        (run .user questionTree [] ("generate" :: Generate.emptyWords)).1) ∧
    ∃ values pairs text, (run .user (Generate.besideEmpty []) [] inspectWords).1.out =
        unlines [Json.render 0 (.arr values)] ∧
      Generate.render (Generate.besideEmpty []) [] Generate.emptyOrder = .ok text ∧
      List.Forall₂ Inspect.Matches values pairs := by
  obtain ⟨generated, inspected⟩ := report_question
  obtain ⟨left, stored⟩ := Generate.store_empty
  have carried : report (Generate.besideEmpty []) [] ("generate" :: Generate.emptyWords) =
      .line left ("generated: " ++ (FilePath.ofText "out.py").text) := by
    rw [oneFile_empty.report_generating, Generate.carryOut_eq (Generate.render_empty []) rfl]
    exact stored
  constructor
  · obtain ⟨source, located, read, code, _, err, ⟨_, _, same⟩ | ⟨⟨m, parsed⟩, _⟩⟩ :=
      commands_agree .user oneFile_question (by rw [generated]; exact Report.caught_reported _ _)
        (by rw [inspected]; exact Report.caught_reported _ _)
    · exact ⟨located, code.mp (by rw [run, generated]; rfl), err, same⟩
    · cases read
      cases Module.parse_question.symm.trans parsed
  · obtain ⟨source, located, read, code, _, _, ⟨_, malformed, _⟩ | ⟨_, _, json⟩⟩ :=
      commands_agree .user oneFile_empty (by rw [carried]; exact Report.caught_none _ _)
        (by rw [report_inspect_empty]; exact Report.caught_none _ _)
    · cases read
      cases Module.parse_nil.symm.trans malformed
    · obtain ⟨values, out, _, clean⟩ := json rfl
      have fine : located = [] := by
        by_contra some
        have failed := code.mpr some
        rw [run, carried] at failed
        cases failed
      obtain ⟨text, pairs, rendered, _, matching⟩ := clean fine
      exact ⟨values, pairs, text, out, rendered, matching⟩

end Program

end FluentRecords
