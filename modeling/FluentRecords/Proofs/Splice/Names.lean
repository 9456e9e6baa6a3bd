import FluentRecords.Proofs.Activation.Settings
import FluentRecords.Proofs.Record.Layout
import FluentRecords.Proofs.Splice.Pairs

/-!
Names in a spliced module. A builder is called like its record, with the suffix that the decorator of the record
leaves in force, and nothing keeps it apart from other builders or from what the module declares: which names are
taken twice can be read from the module and the settings.
-/

namespace FluentRecords

/-- The names of the classes and functions that stand directly in a module. -/
def Module.declaredNames (m : Module) : List Text :=
  m.body.filterMap Stmt.declaredName?

/-- The name of the builder that was generated. -/
def Expansion.builderName? (e : Expansion) : Option Text :=
  e.generated.map (·.builder.name)

/-- The names of the builders that were inserted. -/
def Splice.builderNames (s : Splice) : List Text :=
  s.expansions.filterMap Expansion.builderName?

theorem Stmt.declaredName?_of_classDecl? {s : Stmt} {c : ClassDecl} (isClass : s.classDecl? = some c) :
    s.declaredName? = some c.name := by
  cases s with
  | classDef place name bases keywords decorators body =>
    cases isClass
    rfl
  | _ => cases isClass

namespace Request

/-- The name of the builder for a record, if its decorator leaves settings in force. -/
def builderName? (settings : Settings) (r : Request) : Option Text :=
  (r.decorator.settings settings).toOption.map (·.builderName r.name)

/-- Two records whose builders have one name: the name of one record continues that of the other with the text by
which its suffix is shorter. -/
def Clashes (settings : Settings) (r r' : Request) : Prop :=
  ∃ s s' between, r.decorator.settings settings = .ok s ∧ r'.decorator.settings settings = .ok s' ∧
    (r'.name = r.name ++ between ∧ s.builderSuffix.val = between ++ s'.builderSuffix.val ∨
      r.name = r'.name ++ between ∧ s'.builderSuffix.val = between ++ s.builderSuffix.val)

variable {settings : Settings} {r r' : Request} {e : Expansion} {n n' : Text}

theorem builderName?_eq_some : r.builderName? settings = some n ↔
    ∃ s, r.decorator.settings settings = .ok s ∧ s.builderName r.name = n := by
  rw [builderName?]
  cases r.decorator.settings settings with
  | ok s => simp [Except.toOption]
  | error f => simp [Except.toOption]

/-- A request that is expanded without an error has a builder of the name that is due to it. -/
theorem builderName?_of_clean (named : r.stmt.declaredName? = some r.name) (run : r.expand settings = .ok e)
    (clean : e.hasErrors = false) : ∃ g, e.generated = some g ∧ r.builderName? settings = some g.builder.name := by
  obtain ⟨_, s, inForce, expanded⟩ := expand_accepted run clean
  obtain ⟨g, generated⟩ := Option.isSome_iff_exists.mp (expand_clean run clean).2
  obtain ⟨c, record, isClass, made, rfl⟩ := Expansion.of_generated expanded generated
  have same : record.name = r.name := by
    have declared : r.stmt.declaredName? = some c.name := Stmt.declaredName?_of_classDecl? isClass
    rw [(ClassDecl.record_eq_ok made).1]
    exact Option.some.inj (declared.symm.trans named)
  exact ⟨_, generated, builderName?_eq_some.mpr ⟨s, inForce, congrArg s.builderName same.symm⟩⟩

/-- Two builders have one name exactly if their records clash. -/
theorem clashes_iff (first : r.builderName? settings = some n) (second : r'.builderName? settings = some n') :
    r.Clashes settings r' ↔ n = n' := by
  obtain ⟨s, inForce, rfl⟩ := builderName?_eq_some.mp first
  obtain ⟨s', inForce', rfl⟩ := builderName?_eq_some.mp second
  rw [Settings.builderName, Settings.builderName, List.append_eq_append_iff]
  constructor
  · rintro ⟨own, own', between, same, same', longer | longer⟩
    · cases inForce.symm.trans same
      cases inForce'.symm.trans same'
      exact Or.inl ⟨between, longer⟩
    · cases inForce.symm.trans same
      cases inForce'.symm.trans same'
      exact Or.inr ⟨between, longer⟩
  · rintro (⟨between, longer⟩ | ⟨between, longer⟩)
    · exact ⟨s, s', between, inForce, inForce', Or.inl longer⟩
    · exact ⟨s, s', between, inForce, inForce', Or.inr longer⟩

section Due

variable {rs : List Request} {ns : List Text} (due : rs.map (builderName? settings) = ns.map some)

include due

theorem exists_due (member : r ∈ rs) : ∃ n ∈ ns, r.builderName? settings = some n := by
  have listed : r.builderName? settings ∈ ns.map some := due ▸ List.mem_map_of_mem member
  obtain ⟨n, inserted, same⟩ := List.mem_map.mp listed
  exact ⟨n, inserted, same.symm⟩

theorem filterMap_due : rs.filterMap (builderName? settings) = ns := by
  have each := congrArg (List.filterMap id) due
  rwa [List.filterMap_map, List.filterMap_map, Function.id_comp, Function.id_comp, List.filterMap_some] at each

/-- Names that are due to records are distinct exactly if no two of these clash. -/
theorem nodup_due_iff : ns.Nodup ↔ rs.Pairwise fun r r' => ¬r.Clashes settings r' := by
  rw [← List.nodup_map_iff (Option.some_injective _), ← due, List.Nodup, List.pairwise_map]
  refine List.Pairwise.iff_of_mem fun {r r'} first second => ?_
  obtain ⟨n, _, own⟩ := exists_due due first
  obtain ⟨n', _, own'⟩ := exists_due due second
  rw [clashes_iff own own', own, own', Ne, Option.some.injEq]

/-- Under one suffix, the names that are due to records are distinct exactly if those of the records are. -/
theorem nodup_due_iff_names {suffix : Suffix}
    (same : ∀ r ∈ rs, ∀ own, r.decorator.settings settings = .ok own → own.builderSuffix = suffix) :
    ns.Nodup ↔ (rs.map Request.name).Nodup := by
  rw [nodup_due_iff due, List.Nodup, List.pairwise_map]
  refine List.Pairwise.iff_of_mem fun {r r'} first second => not_congr ?_
  obtain ⟨n, _, own⟩ := exists_due due first
  obtain ⟨n', _, own'⟩ := exists_due due second
  rw [clashes_iff own own']
  obtain ⟨s, inForce, rfl⟩ := builderName?_eq_some.mp own
  obtain ⟨s', inForce', rfl⟩ := builderName?_eq_some.mp own'
  rw [Settings.builderName, Settings.builderName, same r first s inForce, same r' second s' inForce']
  exact List.append_left_inj _

/-- No name that is due to a record is taken exactly if the record and its suffix never make one that is. -/
theorem unused_due_iff {taken : List Text} : (∀ n ∈ ns, n ∉ taken) ↔
    ∀ r ∈ rs, ∀ own, r.decorator.settings settings = .ok own → own.builderName r.name ∉ taken := by
  constructor
  · intro free r member s inForce
    obtain ⟨n, inserted, own⟩ := exists_due due member
    have made : r.builderName? settings = some (s.builderName r.name) := builderName?_eq_some.mpr ⟨s, inForce, rfl⟩
    cases own.symm.trans made
    exact free _ inserted
  · intro free n inserted
    rw [← filterMap_due due] at inserted
    obtain ⟨r, member, own⟩ := List.mem_filterMap.mp inserted
    obtain ⟨s, inForce, rfl⟩ := builderName?_eq_some.mp own
    exact free r member s inForce

end Due

end Request

/-- The name that a statement of a module declares, and that of the builder for it. -/
def Stmt.namesWithBuilder (settings : Settings) (s : Stmt) : List Text :=
  s.declaredName?.toList ++
    ((Request.ofStmt? settings.activationName.val true s).bind (Request.builderName? settings)).toList

theorem Stmt.namesWithBuilder_of_none {settings : Settings} {s : Stmt}
    (none : Request.ofStmt? settings.activationName.val true s = none) :
    s.namesWithBuilder settings = s.declaredName?.toList := by
  rw [namesWithBuilder, none]
  exact List.append_nil _

/-- Statements that make no requests declare their own names only. -/
theorem flatMap_namesWithBuilder {settings : Settings} {ss : List Stmt}
    (none : ss.filterMap (Request.ofStmt? settings.activationName.val true) = []) :
    ss.flatMap (Stmt.namesWithBuilder settings) = ss.filterMap Stmt.declaredName? := by
  rw [List.filterMap_eq_flatMap_toList]
  exact List.flatMap_congr fun s member => Stmt.namesWithBuilder_of_none (List.filterMap_eq_nil_iff.mp none s member)

namespace Splice

variable {settings : Settings} {es : List Expansion} {s : Stmt} {part : List Stmt}

/-- What becomes of a statement declares the same name, and behind it that of the builder. -/
theorem Replaced.declaredNames (replaced : Replaced settings es s part) (clean : ∀ e ∈ es, e.hasErrors = false) :
    part.filterMap Stmt.declaredName? = s.namesWithBuilder settings := by
  cases replaced with
  | kept plain =>
    rw [Stmt.namesWithBuilder_of_none (Request.ofStmt?_of_plain true plain)]
    cases named : s.declaredName? with
    | none => rw [List.filterMap_cons_none named]; rfl
    | some n => rw [List.filterMap_cons_some named]; rfl
  | @record place name bases keywords before after d body e g first activates expanded listed generated =>
    obtain ⟨g', generated', builder⟩ := Request.builderName?_of_clean rfl expanded (clean e listed)
    cases generated.symm.trans generated'
    rw [Stmt.namesWithBuilder, Request.ofStmt?_classDef true place name bases keywords body first activates,
      Option.bind_some, builder]
    rfl

theorem declaredNames_flatten {ss : List Stmt} {parts : List (List Stmt)}
    (replaced : List.Forall₂ (Replaced settings es) ss parts) (clean : ∀ e ∈ es, e.hasErrors = false) :
    parts.flatten.filterMap Stmt.declaredName? = ss.flatMap (Stmt.namesWithBuilder settings) := by
  induction replaced with
  | nil => rfl
  | cons first others ih =>
    rw [List.flatten_cons, List.filterMap_append, List.flatMap_cons, first.declaredNames clean, ih]

/-- Expansions without errors hold the builders that are due to their requests. -/
theorem map_builderName? {rs : List Request} (answered : List.Forall₂ (fun r e => r.expand settings = .ok e) rs es)
    (named : ∀ r ∈ rs, r.stmt.declaredName? = some r.name) (clean : ∀ e ∈ es, e.hasErrors = false) (m : Module) :
    rs.map (Request.builderName? settings) = (Splice.mk m es).builderNames.map some := by
  rw [builderNames]
  induction answered with
  | nil => rfl
  | @cons r e rs es run _ ih =>
    obtain ⟨own, others⟩ := List.forall_mem_cons.mp named
    obtain ⟨fine, more⟩ := List.forall_mem_cons.mp clean
    obtain ⟨g, generated, builder⟩ := Request.builderName?_of_clean own run fine
    have made : e.builderName? = some g.builder.name := by
      rw [Expansion.builderName?, generated]
      rfl
    rw [List.map_cons, builder, List.filterMap_cons_some made, List.map_cons, ← ih others more]

end Splice

/-- What the names in a spliced module are: the builders have the names that are due to their records, in the order
of these; each stands behind its record, and nothing that was declared is lost. Two builders have one name exactly
if their records clash, which under one suffix they do exactly if they have one name; and a builder is called like
something that was declared exactly if the module declares the name that is due to it. -/
structure Splice.Named (settings : Settings) (m : Module) (s : Splice) : Prop where
  builders : (m.requests settings.activationName.val).map (Request.builderName? settings) = s.builderNames.map some
  placed : s.module.declaredNames = m.body.flatMap (Stmt.namesWithBuilder settings)
  kept : s.module.declaredNames.Perm (m.declaredNames ++ s.builderNames)
  distinct : s.builderNames.Nodup ↔
    (m.requests settings.activationName.val).Pairwise fun r r' => ¬r.Clashes settings r'
  alike : ∀ suffix, (∀ r ∈ m.requests settings.activationName.val, ∀ own,
      r.decorator.settings settings = .ok own → own.builderSuffix = suffix) →
    (s.builderNames.Nodup ↔ ((m.requests settings.activationName.val).map Request.name).Nodup)
  unused : (∀ n ∈ s.builderNames, n ∉ m.declaredNames) ↔
    ∀ r ∈ m.requests settings.activationName.val, ∀ own, r.decorator.settings settings = .ok own →
      ∀ stmt ∈ m.body, stmt.declaredName? ≠ some (r.name ++ own.builderSuffix.val)

namespace Module

variable {settings : Settings} {m : Module} {s : Splice}

theorem declaredNames_splice (ordered : m.body.Pairwise Stmt.ClassesInOrder) (run : m.splice settings = .ok s)
    (clean : s.hasErrors = false) : s.module.declaredNames = m.body.flatMap (Stmt.namesWithBuilder settings) := by
  have expanded := splice_expansions run
  have fine := Splice.each_clean clean
  obtain ⟨_, again, _, shape⟩ := splice_of_clean expanded fine
  cases run.symm.trans again
  rcases shape with quiet | ⟨some, parts, body, replaced⟩
  · have none : m.requests settings.activationName.val = [] := (expandAll_eq_nil expanded).mp (by rw [quiet])
    rw [requests_of_clean ordered expanded fine] at none
    rw [quiet, flatMap_namesWithBuilder none]
    rfl
  · have before : (m.body.take m.importIndex).filterMap (Request.ofStmt? settings.activationName.val true) = [] :=
      List.filterMap_eq_nil_iff.mpr fun s member => ofStmt?_preamble member
    have behind : (Emission.supportImport :: parts.flatten).filterMap Stmt.declaredName? =
        (m.body.drop m.importIndex).flatMap (Stmt.namesWithBuilder settings) := by
      rw [List.filterMap_cons_none rfl]
      exact Splice.declaredNames_flatten replaced fine
    calc s.module.declaredNames
      _ = (m.body.take m.importIndex).filterMap Stmt.declaredName? ++
          (Emission.supportImport :: parts.flatten).filterMap Stmt.declaredName? := by
        rw [declaredNames, body, List.filterMap_append]
      _ = (m.body.take m.importIndex).flatMap (Stmt.namesWithBuilder settings) ++
          (m.body.drop m.importIndex).flatMap (Stmt.namesWithBuilder settings) := by
        rw [flatMap_namesWithBuilder before, behind]
      _ = m.body.flatMap (Stmt.namesWithBuilder settings) := by
        rw [← List.flatMap_append, List.take_append_drop]

theorem splice_named (ordered : m.body.Pairwise Stmt.ClassesInOrder) (run : m.splice settings = .ok s)
    (clean : s.hasErrors = false) : s.Named settings m := by
  have expanded := splice_expansions run
  have fine := Splice.each_clean clean
  have requests := requests_of_clean ordered expanded fine
  have builders : (m.requests settings.activationName.val).map (Request.builderName? settings) =
      s.builderNames.map some :=
    Splice.map_builderName? (mapM_eq_ok.mp expanded) (fun r member => (of_mem_requests member).1) fine s.module
  have placed := declaredNames_splice ordered run clean
  refine ⟨builders, placed, ?_, Request.nodup_due_iff builders, fun suffix => Request.nodup_due_iff_names builders, ?_⟩
  · rw [placed, ← Request.filterMap_due builders, requests, List.filterMap_filterMap, declaredNames,
      List.filterMap_eq_flatMap_toList, List.filterMap_eq_flatMap_toList]
    exact (List.flatMap_append_perm _ _ _).symm
  · have declared : ∀ n, n ∉ m.declaredNames ↔ ∀ stmt ∈ m.body, stmt.declaredName? ≠ some n := by
      intro n
      rw [declaredNames, List.mem_filterMap, not_exists]
      exact forall_congr' fun stmt => not_and
    rw [Request.unused_due_iff builders]
    simp only [declared, Settings.builderName]

end Module

/-- A source that is transformed without errors is that of a module which was spliced, and the names in the spliced
module are what they should be. -/
theorem transform_named {settings : Settings} {source : Text} {t : Transformed}
    (run : transform settings source = .ok t) (clean : t.hasErrors = false) :
    ∃ m s, Module.parse source = .ok m ∧ m.splice settings = .ok s ∧ t.expansions = s.expansions ∧
      (s.expansions = [] ∧ t.source = some source ∨ ∃ text, s.module.text = .ok text ∧ t.source = some (text ++ "\n")) ∧
      s.Named settings m := by
  cases Transformed.ends_of_transform run with
  | malformed => cases clean
  | rejected _ _ errors => exact absurd (clean.symm.trans errors) Bool.false_ne_true
  | @quiet m s parsed spliced fine none =>
    have named := Module.splice_named (Module.ordered_of_parse parsed) spliced fine
    exact ⟨m, s, parsed, spliced, none.symm, Or.inl ⟨none, rfl⟩, named⟩
  | @printed m s text parsed spliced fine _ made =>
    have named := Module.splice_named (Module.ordered_of_parse parsed) spliced fine
    exact ⟨m, s, parsed, spliced, rfl, Or.inr ⟨text, made, rfl⟩, named⟩

/-- A record `A`, and a class that is called like its builder. -/
def takenName : Text :=
  "@derive_builder\nclass A:\n    x: int\nclass ABuilder:\n    pass\n"

theorem transform_takenName : ∃ m t, Module.parse takenName = .ok m ∧ transform .default takenName = .ok t ∧
    t.hasErrors = false ∧ t.expansions.filterMap Expansion.builderName? = ["ABuilder"] ∧
    m.declaredNames = ["A", "ABuilder"] := by
  have both : ((Module.parse takenName).toOption.any fun m =>
        m.declaredNames == (["A", "ABuilder"] : List Text)) = true ∧
      ((transform .default takenName).toOption.any fun t =>
        !t.hasErrors && (t.expansions.filterMap Expansion.builderName? == (["ABuilder"] : List Text))) = true := by
    decide +kernel
  obtain ⟨m, parsed, declared⟩ := exists_of_toOption_any both.1
  obtain ⟨t, run, fine⟩ := exists_of_toOption_any both.2
  obtain ⟨clean, names⟩ := Bool.and_eq_true_iff.mp fine
  exact ⟨m, t, parsed, run, (Bool.not_eq_true' _).mp clean, beq_iff_eq.mp names, beq_iff_eq.mp declared⟩

theorem transform_named_taken : ∃ t m s, transform .default takenName = .ok t ∧ Module.parse takenName = .ok m ∧
    m.splice .default = .ok s ∧ s.Named .default m ∧ s.builderNames = ["ABuilder"] ∧
    s.module.declaredNames.Perm ["A", "ABuilder", "ABuilder"] := by
  obtain ⟨m, t, parsed, run, clean, names, declared⟩ := transform_takenName
  obtain ⟨m', s, again, spliced, same, _, named⟩ := transform_named run clean
  cases parsed.symm.trans again
  have builders : s.builderNames = ["ABuilder"] := by rw [Splice.builderNames, ← same, names]
  have kept := named.kept
  rw [declared, builders] at kept
  exact ⟨t, m, s, run, parsed, spliced, named, builders, kept⟩

/-- A record that is declared twice. -/
def Module.repeated : Module where
  body := [.classDef ⟨2, 0⟩ "A" [] [] [⟨⟨1, 1⟩, .name "derive_builder"⟩]
      [.simple ⟨3, 4⟩ (.annotated (.name "x") ⟨3, 4⟩ true (.name "int") none)],
    .classDef ⟨5, 0⟩ "A" [] [] [⟨⟨4, 1⟩, .name "derive_builder"⟩]
      [.simple ⟨6, 4⟩ (.annotated (.name "y") ⟨6, 4⟩ true (.name "int") none)]]

/-- A source is transformed although a builder takes the name of a class, and a module is spliced although two
builders have one name. -/
theorem takes_names :
    (∃ m t, Module.parse takenName = .ok m ∧ transform .default takenName = .ok t ∧ t.hasErrors = false ∧
      ∃ n ∈ t.expansions.filterMap Expansion.builderName?, n ∈ m.declaredNames) ∧
    ∃ s, Module.repeated.splice .default = .ok s ∧ s.hasErrors = false ∧ ¬s.builderNames.Nodup := by
  constructor
  · obtain ⟨m, t, parsed, run, clean, names, declared⟩ := transform_takenName
    refine ⟨m, t, parsed, run, clean, "ABuilder", ?_, ?_⟩
    · rw [names]
      exact List.mem_singleton_self _
    · rw [declared]
      exact List.mem_cons_of_mem _ (List.mem_singleton_self _)
  · have found : Module.repeated.body.flatMap (Request.ofTopLevel Settings.default.activationName.val) = [_, _] := rfl
    have sorted : Module.repeated.requests Settings.default.activationName.val = [_, _] :=
      (congrArg (List.mergeSort · Request.before) found).trans
        (List.mergeSort_of_pairwise (List.pairwise_pair.mpr rfl))
    obtain ⟨es, expanded, names, clean⟩ : ∃ es, Module.repeated.expandAll .default = .ok es ∧
        (Splice.mk Module.repeated es).builderNames = ["ABuilder", "ABuilder"] ∧
        (Splice.mk Module.repeated es).hasErrors = false := by
      rw [Module.expandAll, sorted]
      exact ⟨_, rfl, rfl, rfl⟩
    obtain ⟨s, spliced, rfl, _⟩ := Module.splice_of_clean expanded (Splice.hasErrors_eq_false.mp clean)
    refine ⟨s, spliced, clean, fun distinct => ?_⟩
    rw [Splice.builderNames] at names distinct
    rw [names] at distinct
    exact absurd distinct (by decide)

end FluentRecords
