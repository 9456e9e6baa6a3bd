import FluentRecords.Loading.Probe
import FluentRecords.Splice
import FluentRecords.Proofs.Activation.Requests
import FluentRecords.Proofs.Loading.Derivation
import FluentRecords.Proofs.Loading.Steps
import FluentRecords.Proofs.Record.Layout
import FluentRecords.Proofs.Splice.Verdict
import FluentRecords.Proofs.Splice.Residue

/-!
The two ways to a builder. A class with an activation decorator is expanded where it stands in a module that is
transformed, and it derives a builder from its own source while the module runs. The arguments of the decorator
are read in the first case and evaluated in the second.
-/

namespace FluentRecords

open Load Loading

/-- A value without truth leaves the settings in force that are default. -/
theorem Settings.replaced_of_untrue {v : Value} {b : Settings} {place : Pos} (untrue : v.truth = false)
    (read : Settings.default.replaced place v = .ok b) : b = .default := by
  cases v with
  | none => exact (Except.ok.inj read).symm
  | dict es =>
    cases es with
    | nil => exact (Except.ok.inj read).symm
    | cons e rest => cases untrue
  | _ => cases read

/-- A keyword argument is the literal of an option, and it gives its value. -/
def Keyword.Gives (call : Caller) (sc : Scope) (w : World) (k : Keyword) (o : Text × Value) : Prop :=
  k.Spells o ∧ Evaluates call sc w k.value (.value o.2)

/-- The activation decorator is written bare, or it is called with literals under distinct names, and with
settings that are made in its arguments in the same way. -/
inductive ActivationForm (call : Caller) (sc : Scope) (w : World) : Expr → Prop
  | bare {e : Expr} (named : e.lastName? = some Settings.default.activationName.val)
      (host : Evaluates call sc w e (.tool .derive)) : ActivationForm call sc w e
  | literals {f : Expr} {ks : List Keyword} {o : Options} (host : Evaluates call sc w f (.tool .derive))
      (given : List.Forall₂ (Keyword.Gives call sc w) ks o) (distinct : (o.map (·.1)).Nodup) :
      ActivationForm call sc w (.call f [] ks)
  | config {f g : Expr} {before after own : List Keyword} {place : Pos} {o₁ o₂ o : Options}
      (host : Evaluates call sc w f (.tool .derive))
      (named : g.lastName? = some configName) (settings : Evaluates call sc w g (.tool .settings))
      (inner : List.Forall₂ (Keyword.Gives call sc w) own o) (distinctInner : (o.map (·.1)).Nodup)
      (first : List.Forall₂ (Keyword.Gives call sc w) before o₁)
      (last : List.Forall₂ (Keyword.Gives call sc w) after o₂)
      (distinct : (configKey :: (o₁ ++ o₂).map (·.1)).Nodup) :
      ActivationForm call sc w (.call f [] (before ++ .mk (some configKey) place (.call g [] own) :: after))

section

variable {fuel id : Nat} {sc : Scope} {w w₁ w₂ w₃ : World} {host r : Thing}

theorem Keyword.spells_of_gives {call : Caller} {ks : List Keyword} {o : Options}
    (given : List.Forall₂ (Keyword.Gives call sc w) ks o) : List.Forall₂ Keyword.Spells ks o :=
  given.imp fun _ _ both => both.1

theorem Keyword.things_of_gives {call : Caller} {ks : List Keyword} {o : Options}
    (given : List.Forall₂ (Keyword.Gives call sc w) ks o) :
    List.Forall₂ (fun k e => k.name = some e.1 ∧ Evaluates call sc w k.value e.2) ks o.things := by
  rw [Options.things, List.forall₂_map_right_iff]
  exact given.imp fun _ _ both => ⟨both.1.1, both.2⟩

/-- Settings wait for a class if the decorator is called without one. -/
theorem callThing_derive {keywords : List (Text × Thing)}
    (given : (callThing fuel (.tool .derive) [] keywords).Gives w host w₁) : ∃ settings,
      (Derive.effective (activationBase keywords) (keywords.filter (·.1 != configKey))).Gives w settings w₁ ∧
        host = .activation settings := by
  cases fuel with
  | zero => exact absurd given not_gives_fail
  | succ fuel => exact activate_waits given

theorem callThing_activation {settings : Thing}
    (applied : (callThing fuel (.activation settings) [.cls id] []).Gives w₂ r w₃) :
    (Derive.deriveClass settings id).Gives w₂ r w₃ := by
  cases fuel with
  | zero => exact absurd applied not_gives_fail
  | succ fuel => exact apply_class applied

theorem activationBase_things (o : Options) : activationBase o.things =
    if (Settings.configOf o).truth then .value (Settings.configOf o) else .settings .default := by
  unfold activationBase Settings.configOf
  rw [Options.getThing?_things]
  cases (o.find? (·.1 == configKey)).map (·.2) with
  | none => rfl
  | some v => rfl

/-- A call with literals derives a builder under the settings that are read from them. -/
theorem settings_of_literals {o : Options} {place : Pos} {s : Settings} {settings : Thing}
    (read : Settings.default.withOverrides place o = .ok s)
    (effective :
      (Derive.effective (activationBase o.things) (o.things.filter (·.1 != configKey))).Gives w settings w₁)
    (derived : (Derive.deriveClass settings id).Gives w₂ r w₃) : settings = .settings s := by
  obtain ⟨b, replaced, options⟩ := Settings.withOverrides_eq_ok Settings.default_encodable read
  rw [activationBase_things, Options.things_filter] at effective
  cases holds : (Settings.configOf o).truth with
  | true =>
    -- a literal that counts as true stands in the place of settings, and nothing can be generated under it
    rw [holds, if_pos rfl] at effective
    obtain rfl := effective_value effective
    obtain ⟨_, _, _, _, generated, _⟩ := deriveClass_gives derived
    cases (generate_gives generated).2.1
  | false =>
    rw [holds, if_neg Bool.false_ne_true] at effective
    obtain rfl := Settings.replaced_of_untrue holds replaced
    obtain ⟨s', rfl, options'⟩ := effective_gives Settings.default_encodable effective
    rw [options] at options'
    cases options'
    rfl

theorem getThing?_config {o₁ o₂ : Options} {t : Thing} (fresh : configKey ∉ o₁.map (·.1)) :
    getThing? (o₁.things ++ (configKey, t) :: o₂.things) configKey = some t := by
  have none : o₁.things.find? (·.1 == configKey) = none := by
    refine List.find?_eq_none.mpr fun e member => ?_
    obtain ⟨e, inside, rfl⟩ := List.mem_map.mp member
    rw [beq_iff_eq]
    rintro same
    exact fresh (List.mem_map.mpr ⟨e, inside, same⟩)
  rw [getThing?, List.find?_append, none, Option.none_or, List.find?_cons, beq_self_eq_true]
  rfl

theorem filter_config {o₁ o₂ : Options} {t : Thing} :
    (o₁.things ++ (configKey, t) :: o₂.things).filter (·.1 != configKey) =
      Options.things ((o₁ ++ o₂).filter (·.1 != configKey)) := by
  rw [List.filter_append, List.filter_cons, bne_self_eq_false, if_neg Bool.false_ne_true, Options.things_filter,
    Options.things_filter, Options.things, Options.things, ← List.map_append, ← List.filter_append]
  rfl

/-- A call with settings made in its arguments derives a builder under the settings that are read from them. -/
theorem settings_of_config {o₁ o₂ : Options} {s b : Settings} {settings : Thing}
    (encodable : b.builderSuffix.val.any Text.isSurrogate = false) (fresh : configKey ∉ o₁.map (·.1))
    (read : Settings.ofOptions (Options.override b.toOptions ((o₁ ++ o₂).filter (·.1 != configKey))) = .ok s)
    (effective : (Derive.effective (activationBase (o₁.things ++ (configKey, .settings b) :: o₂.things))
      ((o₁.things ++ (configKey, .settings b) :: o₂.things).filter (·.1 != configKey))).Gives w settings w₁) :
    settings = .settings s := by
  have base : activationBase (o₁.things ++ (configKey, .settings b) :: o₂.things) = .settings b := by
    unfold activationBase
    rw [getThing?_config fresh]
    rfl
  rw [base, filter_config] at effective
  obtain ⟨s', rfl, read'⟩ := effective_gives encodable effective
  rw [read] at read'
  cases read'
  rfl

/-- The builder of a class is derived under the settings that are read from the decorator. -/
theorem ActivationForm.derives {place : Pos} {e : Expr} {s : Settings}
    (form : ActivationForm (callThing fuel) sc w e) (read : (Decorator.mk place e).settings .default = .ok s)
    (evaluated : (eval (callThing fuel) sc e).Gives w host w₁)
    (applied : (callThing fuel host [.cls id] []).Gives w₂ r w₃) :
    (Derive.deriveClass (.settings s) id).Gives w₂ r w₃ := by
  obtain ⟨o, options, read⟩ := bind_eq_ok.mp read
  cases form with
  | bare named given =>
    rw [Decorator.overrides_bare named] at options
    cases options
    cases read
    obtain ⟨rfl, _⟩ := Gives.unique given evaluated
    cases fuel with
    | zero => exact absurd applied not_gives_fail
    | succ fuel => exact activate_class applied
  | literals given arguments distinct =>
    rw [Decorator.overrides_literals (Keyword.spells_of_gives arguments) distinct] at options
    cases options
    have called := (eval_call_gives given (by decide) (Keyword.things_of_gives arguments)).mp evaluated
    obtain ⟨settings, effective, rfl⟩ := callThing_derive called
    have derived := callThing_activation applied
    rwa [settings_of_literals read effective derived] at derived
  | @config f g before after own p o₁ o₂ o given named settings inner distinctInner first last distinct =>
    rw [Decorator.overrides_config named (Keyword.spells_of_gives inner) distinctInner (Keyword.spells_of_gives first)
      (Keyword.spells_of_gives last) distinct] at options
    cases options
    obtain ⟨b, made, read⟩ := Settings.withOverrides_config Settings.default_encodable read
    cases fuel with
    | zero => exact absurd applied not_gives_fail
    | succ fuel =>
      have config : Evaluates (callThing (fuel + 1)) sc w (.call g [] own) (.settings b) :=
        (eval_call_gives settings (by decide) (Keyword.things_of_gives inner)).mpr (settingsOf_gives made)
      let k := Keyword.mk (some configKey) p (.call g [] own)
      have arguments : List.Forall₂
          (fun k e => k.name = some e.1 ∧ Evaluates (callThing (fuel + 1)) sc w k.value e.2)
          (before ++ k :: after) (o₁.things ++ (configKey, .settings b) :: o₂.things) :=
        List.rel_append (Keyword.things_of_gives first) (.cons ⟨rfl, config⟩ (Keyword.things_of_gives last))
      have called := (eval_call_gives given (by decide) arguments).mp evaluated
      obtain ⟨settings, effective, rfl⟩ := callThing_derive called
      have fresh : configKey ∉ o₁.map (·.1) := fun member =>
        (List.nodup_cons.mp distinct).1 (List.map_append ▸ List.mem_append_left _ member)
      have derived := callThing_activation applied
      rwa [settings_of_config (Settings.ofOptions_encodable made) fresh read effective] at derived

/-- The lines of a source are those of a class, with its decorators: read by themselves they are its declaration
alone, but for the layout. -/
def ClassSource.Holds (source : ClassSource) (c : ClassDecl) : Prop :=
  ∃ s c', Module.parse source.text = .ok ⟨[s]⟩ ∧ s.classDecl? = some c' ∧ c.Alike c'

/-- What is generated under the same settings from a declaration and from what is read for it in its source has
the same name and the same slots. -/
theorem Generated.agree {c : ClassObject} {decl : ClassDecl} {s : Settings} {e : Expansion} {g g' : Generated}
    (own : ∀ source, ClassSource.find? w.source w.module c.path = some source → source.Holds decl)
    (given : (Derive.generate c (.settings s)).Gives w (g', s) w)
    (expanded : Expansion.expand s (.stmt decl.stmt) = .ok e) (generated : e.generated = some g) :
    g'.builder.name = g.builder.name ∧ g'.slots = g.slots := by
  obtain ⟨_, _, found, e', declared, expanded', generated'⟩ := generate_gives given
  obtain ⟨_, source, m', parsed', first⟩ := declaration_gives declared
  obtain ⟨s', decl', parsed, isClass, alike⟩ := own _ source
  rw [parsed] at parsed'
  cases parsed'
  obtain rfl : found.2 = s' := List.mem_singleton.mp (List.mem_of_find?_eq_some first)
  obtain ⟨c₁, r, isClass₁, made, rfl⟩ := Expansion.of_generated expanded generated
  obtain ⟨c₂, r', isClass₂, made', rfl⟩ := Expansion.of_generated expanded' generated'
  cases isClass₁
  rw [isClass] at isClass₂
  cases isClass₂
  refine ⟨?_, (alike.slots_eq made made').symm⟩
  have name : r'.name = r.name := by
    rw [(ClassDecl.record_eq_ok made').1, (ClassDecl.record_eq_ok made).1]
    exact alike.name.symm
  change s.builderName r'.name = s.builderName r.name
  rw [name]

end

/-- A module with one record, whose decorator has an argument. -/
def recordSource : Text :=
  "from recordbuilder import derive_builder\n@derive_builder(collect_missing=True)\nclass P:\n    x: int\n"

def recordModule : Module :=
  ((Module.parse recordSource).toOption).getD ⟨[]⟩

/-- The module as it runs, after the body of its class. -/
def recordWorld : World :=
  { World.start recordSource recordModule with
    frames := [⟨[("derive_builder", .tool .derive)], []⟩]
    classes := [⟨"P", "P", [], [], [], .none⟩] }

/-- The decorator of the record in a line. -/
def recordDecorator (line : Nat) : Expr :=
  .call (.name "derive_builder") [] [.mk (some "collect_missing") ⟨line, 32⟩ (.constant (.bool true))]

/-- Whether a statement is the declaration of the record, with its decorator in a line. -/
def Stmt.isRecordSample (line : Nat) : Stmt → Bool
  | .classDef _ n _ _ [⟨_, .call (.name f) [] [.mk (some k) place (.constant (.bool true))]⟩]
      [.simple _ (.annotated (.name x) _ _ (.name type) _)] =>
    n == "P" && f == "derive_builder" && k == "collect_missing" && place == ⟨line, 32⟩ && x == "x" && type == "int"
  | _ => false

theorem Stmt.of_isRecordSample {s : Stmt} {line : Nat} (holds : s.isRecordSample line = true) :
    ∃ (c : ClassDecl) (d : Decorator), s = c.stmt ∧ c.name = "P" ∧ c.decorators = [d] ∧
      d.expr = recordDecorator line ∧
      (c.body.filterMap Stmt.fieldDecl?).map (fun d => (d.target.bare, d.type.bare)) = [(.name "x", .name "int")] := by
  unfold isRecordSample at holds
  split at holds
  · simp only [Bool.and_eq_true, beq_iff_eq] at holds
    obtain ⟨⟨⟨⟨⟨rfl, rfl⟩, rfl⟩, rfl⟩, rfl⟩, rfl⟩ := holds
    exact ⟨⟨_, _, _, _, _, _⟩, _, rfl, rfl, rfl, rfl, rfl⟩
  · cases holds

/-- The decorator is evaluated and applied to the class. -/
def recordRun : Load Thing := do
  let host ← eval (callThing 1) moduleScope (recordDecorator 2)
  set recordWorld
  callThing 1 host [.cls 0] []

/-- Without its first line the module is the declaration of the record alone. -/
def recordExcerpt : Text :=
  "@derive_builder(collect_missing=True)\nclass P:\n    x: int\n"

/-- The module is read, the decorator is applied, the class is found in its source and read again, and the module is
transformed. -/
theorem record_checked :
    (Module.parse recordSource).toBool = true ∧ recordModule.body.any (Stmt.isRecordSample 2) = true ∧
    (recordRun.run recordWorld).1.toBool = true ∧
    (ClassSource.find? recordSource recordModule "P").map (·.text) = some recordExcerpt ∧
    ((Module.parse recordExcerpt).toOption.any fun m => m.body.length == 1 && m.body.any (Stmt.isRecordSample 1)) = true ∧
    ((transform .default recordSource).toOption.any fun t => t.expansions.all fun e => !e.hasErrors) = true := by
  decide +kernel

theorem recordModule_parsed : Module.parse recordSource = .ok recordModule := by
  have fine := record_checked.1
  unfold recordModule
  cases parsed : Module.parse recordSource with
  | error f => rw [parsed] at fine; cases fine
  | ok m => rfl

/-- The declaration of the record is in its module. -/
theorem recordModule_declared : ∃ s ∈ recordModule.body, s.isRecordSample 2 = true :=
  List.any_eq_true.mp record_checked.2.1

theorem recordWorld_runs : ∃ host w₁ r w₃,
    (eval (callThing 1) moduleScope (recordDecorator 2)).Gives recordWorld host w₁ ∧
      (callThing 1 host [.cls 0] []).Gives recordWorld r w₃ := by
  have fine := record_checked.2.2.1
  cases result : recordRun.run recordWorld with
  | mk outcome w₃ =>
    rw [result] at fine
    cases outcome with
    | error f => cases fine
    | ok r =>
      obtain ⟨host, w₁, evaluated, rest⟩ := gives_bind.mp result
      obtain ⟨_, _, put, applied⟩ := gives_bind.mp rest
      obtain rfl := gives_set.mp put
      exact ⟨host, w₁, r, w₃, evaluated, applied⟩

theorem recordExcerpt_found {source : ClassSource}
    (found : ClassSource.find? recordSource recordModule "P" = some source) : source.text = recordExcerpt := by
  have same := record_checked.2.2.2.1
  rw [found] at same
  exact Option.some.inj same

theorem recordExcerpt_parsed : ∃ s, Module.parse recordExcerpt = .ok ⟨[s]⟩ ∧ s.isRecordSample 1 = true := by
  obtain ⟨m, parsed, fine⟩ := exists_of_toOption_any record_checked.2.2.2.2.1
  obtain ⟨alone, sample⟩ := Bool.and_eq_true_iff.mp fine
  obtain ⟨s, body⟩ := List.length_eq_one_iff.mp (beq_iff_eq.mp alone)
  obtain ⟨s', member, holds⟩ := List.any_eq_true.mp sample
  obtain rfl : s' = s := List.mem_singleton.mp (body ▸ member)
  exact ⟨s', parsed.trans (congrArg Except.ok (congrArg Module.mk body)), holds⟩

theorem recordSource_transforms :
    ∃ t, transform .default recordSource = .ok t ∧ ∀ e ∈ t.expansions, e.hasErrors = false := by
  obtain ⟨t, run, fine⟩ := exists_of_toOption_any record_checked.2.2.2.2.2
  refine ⟨t, run, fun e member => ?_⟩
  rw [← Bool.not_eq_true']
  exact List.all_eq_true.mp fine e member

end FluentRecords
