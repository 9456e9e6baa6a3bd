import FluentRecords.Loading.Call
import FluentRecords.Proofs.Activation.Settings
import FluentRecords.Proofs.Loading.Run

/-!
Derivation of a builder while a module runs: what the activation decorator makes of the arguments it is
given, and which builder is added for a class that it is applied to.
-/

namespace FluentRecords

open Load Loading

variable {call : Caller} {sc : Scope} {w w' : World}

/-- Options as keyword arguments of a call. -/
def Options.things (o : Options) : List (Text × Thing) :=
  o.map fun e => (e.1, .value e.2)

/-- An expression gives a thing and has no other effect. -/
def Evaluates (call : Caller) (sc : Scope) (w : World) (e : Expr) (t : Thing) : Prop :=
  (eval call sc e).Gives w t w

theorem evalKeywords_gives {ks : List Keyword} {es : List (Text × Thing)}
    (each : List.Forall₂ (fun k e => k.name = some e.1 ∧ Evaluates call sc w k.value e.2) ks es) :
    (evalKeywords call sc ks).Gives w es w := by
  induction each with
  | nil => exact gives_pure.mpr ⟨rfl, rfl⟩
  | @cons k e ks es here _ ih =>
    obtain ⟨named, evaluated⟩ := here
    cases k with
    | mk name place value =>
      cases (show name = some e.1 from named)
      rw [evalKeywords]
      refine gives_bind.mpr ⟨e.2, w, evaluated, gives_bind.mpr ⟨es, w, ih, ?_⟩⟩
      exact gives_pure.mpr ⟨rfl, rfl⟩

/-- A call of a tool with keyword arguments calls it with what they give. -/
theorem eval_call_gives {f : Expr} {ks : List Keyword} {es : List (Text × Thing)} {tool : Tool} {t : Thing}
    (callee : Evaluates call sc w f (.tool tool)) (own : tool ≠ .ancestor)
    (each : List.Forall₂ (fun k e => k.name = some e.1 ∧ Evaluates call sc w k.value e.2) ks es) :
    (eval call sc (.call f [] ks)).Gives w t w' ↔ (call (.tool tool) [] es).Gives w t w' := by
  have arguments : (evalArgs call sc []).Gives w [] w := by
    rw [evalArgs]
    exact gives_pure.mpr ⟨rfl, rfl⟩
  rw [eval, gives_bind]
  constructor
  · rintro ⟨t', w₁, first, run⟩
    obtain ⟨as, w₂, second, run₁⟩ := gives_bind.mp run
    obtain ⟨ks', w₃, third, run₂⟩ := gives_bind.mp run₁
    obtain ⟨rfl, rfl⟩ := Gives.unique callee first
    obtain ⟨rfl, rfl⟩ := arguments.unique second
    obtain ⟨rfl, rfl⟩ := (evalKeywords_gives each).unique third
    cases tool with
    | ancestor => exact absurd rfl own
    | _ => exact run₂
  · intro called
    have keywords := evalKeywords_gives each
    refine ⟨_, w, callee, gives_bind.mpr ⟨[], w, arguments, gives_bind.mpr ⟨es, w, keywords, ?_⟩⟩⟩
    cases tool with
    | ancestor => exact absurd rfl own
    | _ => exact called

theorem optionsOf_gives (o : Options) : (Derive.settingsOf.optionsOf o.things).Gives w o w := by
  induction o with
  | nil => exact gives_pure.mpr ⟨rfl, rfl⟩
  | cons e rest ih =>
    change (Derive.settingsOf.optionsOf ((e.1, .value e.2) :: Options.things rest)).Gives w (e :: rest) w
    rw [Derive.settingsOf.optionsOf]
    exact gives_bind.mpr ⟨rest, w, ih, gives_pure.mpr ⟨rfl, rfl⟩⟩

/-- The settings that a module makes of options. -/
theorem settingsOf_gives {o : Options} {s : Settings} (read : Settings.ofOptions o = .ok s) :
    (Derive.settingsOf [] o.things).Gives w (.settings s) w := by
  unfold Derive.settingsOf
  refine gives_bind.mpr ⟨o, w, optionsOf_gives o, ?_⟩
  rw [read]
  exact gives_pure.mpr ⟨rfl, rfl⟩

theorem Options.things_filter (o : Options) :
    o.things.filter (·.1 != configKey) = Options.things (o.filter (·.1 != configKey)) := by
  rw [things, things, List.filter_map]
  rfl

theorem Options.getThing?_things (o : Options) (k : Text) :
    getThing? o.things k = ((o.find? (·.1 == k)).map (·.2)).map .value := by
  induction o with
  | nil => rfl
  | cons e rest ih =>
    change getThing? ((e.1, .value e.2) :: things rest) k = _
    rw [getThing?, List.find?_cons, List.find?_cons]
    cases e.1 == k with
    | true => rfl
    | false => exact ih

/-- With options on top, the settings in force become those that all options together give. -/
theorem effective_gives {b : Settings} {o : Options} {t : Thing}
    (encodable : b.builderSuffix.val.any Text.isSurrogate = false)
    (given : (Derive.effective (.settings b) o.things).Gives w t w') :
    ∃ s, t = .settings s ∧ Settings.ofOptions (Options.override b.toOptions o) = .ok s := by
  unfold Derive.effective at given
  cases o with
  | nil =>
    obtain ⟨rfl, _⟩ := gives_pure.mp given
    exact ⟨b, rfl, Settings.ofOptions_toOptions encodable⟩
  | cons e rest =>
    rw [if_neg (by exact Bool.false_ne_true)] at given
    dsimp only at given
    split at given
    · obtain ⟨_, _, thrown, _⟩ := gives_bind.mp given
      exact absurd thrown not_gives_throw
    · obtain ⟨o, w₁, read, given⟩ := gives_bind.mp given
      obtain ⟨rfl, rfl⟩ := (optionsOf_gives _).unique read
      cases made : Settings.ofOptions (b.toOptions.override (e :: rest)) with
      | error fs =>
        rw [made] at given
        exact absurd given not_gives_throw
      | ok s =>
        rw [made] at given
        obtain ⟨rfl, _⟩ := gives_pure.mp given
        exact ⟨s, rfl, rfl⟩

/-- A value does not stand in the place of settings with options on top. -/
theorem effective_value {v : Value} {o : Options} {t : Thing}
    (given : (Derive.effective (.value v) o.things).Gives w t w') : t = .value v := by
  unfold Derive.effective at given
  cases o with
  | nil => exact (gives_pure.mp given).1.symm
  | cons e rest =>
    rw [if_neg (by exact Bool.false_ne_true)] at given
    dsimp only at given
    split at given
    · obtain ⟨_, _, thrown, _⟩ := gives_bind.mp given
      exact absurd thrown not_gives_throw
    · obtain ⟨_, _, _, given⟩ := gives_bind.mp given
      obtain ⟨_, _, _, given⟩ := gives_bind.mp given
      exact absurd given not_gives_fail

/-- What stands in the place of settings in a call of the activation decorator, without those it is given. -/
def activationBase (keywords : List (Text × Thing)) : Thing :=
  let config := (getThing? keywords configKey).getD .nothing
  if config.truth then config else .settings .default

/-- Without a class the activation decorator waits for one. -/
theorem activate_waits {keywords : List (Text × Thing)} {t : Thing}
    (given : (Derive.activate [] keywords).Gives w t w') : ∃ settings,
      (Derive.effective (activationBase keywords) (keywords.filter (·.1 != configKey))).Gives w settings w' ∧
        t = .activation settings := by
  unfold Derive.activate at given
  obtain ⟨settings, w₁, effective, given⟩ := gives_bind.mp given
  obtain ⟨rfl, rfl⟩ := gives_pure.mp given
  exact ⟨settings, effective, rfl⟩

/-- At a class the activation decorator derives a builder. -/
theorem apply_class {settings t : Thing} {id : Nat} (given : (Derive.apply settings (.cls id)).Gives w t w') :
    (Derive.deriveClass settings id).Gives w t w' := by
  unfold Derive.apply at given
  obtain ⟨w₁, w₂, here, derived⟩ := gives_bind.mp given
  obtain ⟨rfl, rfl⟩ := gives_get.mp here
  exact derived

/-- Without arguments the activation decorator is applied with the settings in force. -/
theorem activate_class {id : Nat} {t : Thing} (given : (Derive.activate [.cls id] []).Gives w t w') :
    (Derive.deriveClass (.settings .default) id).Gives w t w' := by
  unfold Derive.activate at given
  obtain ⟨settings, w₁, effective, applied⟩ := gives_bind.mp given
  obtain ⟨rfl, rfl⟩ := gives_pure.mp effective
  exact apply_class applied

/-- The declaration of a class is found in the source of the class. -/
theorem declaration_gives {c : ClassObject} {found : ClassSource × Stmt}
    (given : (Derive.declaration c).Gives w found w') :
    w = w' ∧ ClassSource.find? w.source w.module c.path = some found.1 ∧
      ∃ m, Module.parse found.1.text = .ok m ∧
        m.body.find? (fun s => (s.classDecl?.map (·.name)) == some c.name) = some found.2 := by
  unfold Derive.declaration at given
  obtain ⟨w₁, w₂, here, read⟩ := gives_bind.mp given
  obtain ⟨rfl, rfl⟩ := gives_get.mp here
  split at read
  · rename_i source isFound
    split at read
    · exact absurd read not_gives_throw
    · exact absurd read not_gives_throw
    · exact absurd read not_gives_throw
    · rename_i m parsed
      split at read
      · rename_i s first
        obtain ⟨rfl, rfl⟩ := gives_pure.mp read
        exact ⟨rfl, isFound, m, parsed, first⟩
      · exact absurd read not_gives_throw
  · exact absurd read not_gives_throw

/-- What is generated for a class comes from its declaration, expanded under the settings. -/
theorem generate_gives {c : ClassObject} {t : Thing} {g : Generated} {s : Settings}
    (given : (Derive.generate c t).Gives w (g, s) w') :
    w = w' ∧ t = .settings s ∧ ∃ found e, (Derive.declaration c).Gives w found w ∧
      Expansion.expand s (.stmt found.2) = .ok e ∧ e.generated = some g := by
  unfold Derive.generate at given
  obtain ⟨found, w₁, declared, expanded⟩ := gives_bind.mp given
  obtain ⟨rfl, _⟩ := declaration_gives declared
  cases t with
  | settings s =>
    dsimp only at expanded
    cases run : Expansion.expand s (.stmt found.2) with
    | error f =>
      rw [run] at expanded
      exact absurd expanded not_gives_throw
    | ok e =>
      rw [run] at expanded
      dsimp only at expanded
      split at expanded
      · rename_i generated
        obtain ⟨same, rfl⟩ := gives_pure.mp expanded
        cases same
        exact ⟨rfl, rfl, found, e, declared, run, generated⟩
      · exact absurd expanded not_gives_throw
      · exact absurd expanded not_gives_fail
  | _ =>
    obtain ⟨_, _, _, failed⟩ := gives_bind.mp expanded
    exact absurd failed not_gives_fail

theorem checkClass_gives {g : Generated} {u : Unit} (given : (Derive.checkClass g).Gives w u w') : w = w' := by
  unfold Derive.checkClass at given
  split at given
  · exact (gives_pure.mp given).2
  · exact absurd given not_gives_fail
  · exact absurd given not_gives_fail

/-- A class whose builder is derived has a declaration from which it is generated, and the builder is added. -/
theorem deriveClass_gives {settings t : Thing} {id : Nat}
    (given : (Derive.deriveClass settings id).Gives w t w') :
    ∃ c g s, w.classes[id]? = some c ∧ (Derive.generate c settings).Gives w (g, s) w ∧
      w' = w.addBuilder ⟨id, g, s, Derive.parentPath c.path⟩ := by
  unfold Derive.deriveClass at given
  obtain ⟨w₁, w₂, here, derived⟩ := gives_bind.mp given
  obtain ⟨rfl, rfl⟩ := gives_get.mp here
  split at derived
  · rename_i c present
    obtain ⟨⟨g, s⟩, w₁, generated, added⟩ := gives_bind.mp derived
    obtain ⟨rfl, _⟩ := generate_gives generated
    obtain ⟨_, w₁, checked, added⟩ := gives_bind.mp added
    obtain rfl := checkClass_gives checked
    obtain ⟨_, w₁, put, result⟩ := gives_bind.mp added
    obtain ⟨_, rfl⟩ := gives_pure.mp result
    exact ⟨c, g, s, present, generated, (gives_set.mp put).symm⟩
  · exact absurd derived not_gives_fail

end FluentRecords
