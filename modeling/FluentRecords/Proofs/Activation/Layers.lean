import FluentRecords.Proofs.Activation.Arguments
import FluentRecords.Proofs.Text.Legal

/-!
Options put over settings, layer by layer. What a layer leaves is told setting by setting: a setting that it
mentions takes the value that is read, and every other one stays. So layers can be merged before they are put over
settings, the same layer changes nothing when it is put over them again, and one that replaces the settings in
force does not depend on them.
-/

namespace FluentRecords

open Settings

/-- The value of a setting, as an option would give it. -/
def Settings.value (s : Settings) : Setting → Value
  | .builderSuffix => .str s.builderSuffix.val
  | .factoryName => .str s.factoryName.val
  | .finalizerName => .str s.finalizerName.val
  | .wrapperName => .str s.wrapperName.val
  | .activationName => .str s.activationName.val
  | .collectMissing => .bool s.collectMissing

/-- What a raw value is taken for by a setting. -/
def Setting.coerce : Setting → Value → Except SettingCause Value
  | .builderSuffix, v => (readSuffix v).map fun t => .str t.val
  | .collectMissing, v => (readTruth v).map .bool
  | _, v => (readName v).map fun n => .str n.val

namespace Settings

variable {c s s₁ s₂ : Settings} {o o₁ o₂ : Options} {place : Pos}

theorem suffix_encodable (s : Settings) : s.builderSuffix.val.any Text.isSurrogate = false := by
  refine List.any_eq_false.mpr fun c member surrogate => ?_
  have legal := Text.isContinue_encodable (Text.isContinue_of_mem_suffix s.builderSuffix c member)
  rw [Text.isUnencodable, surrogate, Bool.true_or] at legal
  cases legal

/-- A setting of settings in force is taken as it is. -/
theorem coerce_value (s : Settings) (k : Setting) : k.coerce (s.value k) = .ok (s.value k) := by
  have read := ofOptions_eq_ok.mp (ofOptions_toOptions s.suffix_encodable)
  cases k with
  | builderSuffix =>
    rcases readOption_eq_ok.mp read.1 with ⟨none, _⟩ | ⟨_, given, fine⟩
    · cases none
    · cases given
      exact congrArg (Except.map _) fine
  | collectMissing => rfl
  | _ => exact congrArg (Except.map _) (readName_str _)

theorem get?_toOptions (s : Settings) (k : Setting) : s.toOptions.get? k = some (s.value k) := by
  cases k <;> rfl

/-- A setting is read from what is given for it, or else from its default. -/
theorem readOption_eq_ok_iff {α : Type} {read : Value → Except SettingCause α} {f : α → Value} {k : Setting}
    {dflt a : α} (injective : ∀ a b, f a = f b → a = b) (stable : read (f dflt) = .ok dflt) :
    readOption o k dflt read = .ok a ↔
      (read ((o.get? k).getD (f dflt))).map f = .ok (f a) := by
  rw [readOption_eq_ok]
  cases o.get? k with
  | none =>
    rw [Option.getD_none, stable]
    constructor
    · rintro (⟨_, rfl⟩ | ⟨_, none, _⟩)
      · rfl
      · cases none
    · intro same
      exact Or.inl ⟨rfl, injective _ _ (Except.ok.inj same)⟩
  | some v =>
    rw [Option.getD_some]
    constructor
    · rintro (⟨none, _⟩ | ⟨_, given, fine⟩)
      · cases none
      · cases given
        rw [fine]
        rfl
    · intro taken
      refine Or.inr ⟨v, rfl, ?_⟩
      cases fine : read v with
      | error cause =>
        rw [fine] at taken
        cases taken
      | ok b =>
        rw [fine] at taken
        rw [injective b a (Except.ok.inj taken)]

/-- Settings are read setting by setting. -/
theorem ofOptions_eq_ok_iff :
    ofOptions o = .ok s ↔ ∀ k : Setting, k.coerce ((o.get? k).getD (default.value k)) = .ok (s.value k) := by
  have name (k : Setting) (d n : LegalName) : readOption o k d readName = .ok n ↔
      (readName ((o.get? k).getD (.str d.val))).map (fun n => Value.str n.val) = .ok (.str n.val) :=
    readOption_eq_ok_iff (fun _ _ same => Subtype.ext (Value.str.inj same)) (readName_str d)
  have suffix : readOption o .builderSuffix default.builderSuffix readSuffix = .ok s.builderSuffix ↔ _ :=
    readOption_eq_ok_iff (f := fun t => .str t.val) (fun _ _ same => Subtype.ext (Value.str.inj same)) rfl
  have truth : readOption o .collectMissing default.collectMissing readTruth = .ok s.collectMissing ↔ _ :=
    readOption_eq_ok_iff (f := .bool) (fun _ _ same => Value.bool.inj same) rfl
  rw [ofOptions_eq_ok, suffix, name, name, name, name, truth]
  constructor
  · rintro ⟨suffix, factory, finalizer, wrapper, activation, truth⟩ k
    cases k with
    | builderSuffix => exact suffix
    | factoryName => exact factory
    | finalizerName => exact finalizer
    | wrapperName => exact wrapper
    | activationName => exact activation
    | collectMissing => exact truth
  · intro each
    exact ⟨each .builderSuffix, each .factoryName, each .finalizerName, each .wrapperName, each .activationName,
      each .collectMissing⟩

end Settings

namespace Options

variable {k : Setting} {o base later : Options}

theorem get?_eq_none (fresh : k.key ∉ o.map (·.1)) : o.get? k = none := by
  rw [get?, Option.map_eq_none_iff, List.find?_eq_none]
  intro e member same
  exact fresh (beq_iff_eq.mp same ▸ List.mem_map_of_mem member)

/-- What is put under the key of a setting is found there; the other settings do not change. -/
theorem get?_put (n : Text) (v : Value) : (o.put n v).get? k = if n = k.key then some v else o.get? k := by
  induction o with
  | nil =>
    rw [put, get?, List.find?_cons]
    by_cases same : n = k.key
    · simp [same]
    · rw [if_neg same, beq_eq_false_iff_ne.mpr same]
      rfl
  | cons e rest ih =>
    obtain ⟨n', v'⟩ := e
    rw [put]
    by_cases there : n' = n
    · subst there
      rw [if_pos rfl]
      by_cases same : n' = k.key
      · simp [get?, same]
      · simp [get?, same]
    · rw [if_neg there]
      by_cases first : n' = k.key
      · have other : n ≠ k.key := fun same => there (first.trans same.symm)
        simp [get?, first, other]
      · simp only [get?, List.find?_cons, beq_eq_false_iff_ne.mpr first] at ih ⊢
        exact ih

/-- Of options over others, those on top are found first. -/
theorem get?_override (distinct : (later.map (·.1)).Nodup) :
    (base.override later).get? k = (later.get? k).or (base.get? k) := by
  induction later generalizing base with
  | nil => rfl
  | cons e rest ih =>
    obtain ⟨n, v⟩ := e
    rw [List.map_cons, List.nodup_cons] at distinct
    have more : (override base ((n, v) :: rest)).get? k = (get? rest k).or ((base.put n v).get? k) :=
      ih distinct.2
    rw [more, get?_put]
    by_cases same : n = k.key
    · subst same
      have first : get? ((k.key, v) :: rest) k = some v := by
        rw [get?, List.find?_cons, beq_self_eq_true]
        rfl
      rw [if_pos rfl, get?_eq_none distinct.1, first]
      rfl
    · have skipped : get? ((n, v) :: rest) k = get? rest k := by
        rw [get?, get?, List.find?_cons, beq_eq_false_iff_ne.mpr same]
      rw [if_neg same, skipped]

/-- Options that replace nothing are all put over the settings in force. -/
theorem filter_of_plain (plain : configKey ∉ o.map (·.1)) : o.filter (·.1 != configKey) = o := by
  refine List.filter_eq_self.mpr fun e member => ?_
  rw [bne_iff_ne]
  intro same
  exact plain (same ▸ List.mem_map_of_mem member)

theorem configOf_of_plain (plain : configKey ∉ o.map (·.1)) : configOf o = .none := by
  have absent : o.find? (·.1 == configKey) = none := by
    refine List.find?_eq_none.mpr fun e member same => ?_
    exact plain (beq_iff_eq.mp same ▸ List.mem_map_of_mem member)
  rw [configOf, absent]
  rfl

theorem keys_put (n : Text) (v : Value) {m : Text} : m ∈ (o.put n v).map (·.1) ↔ m = n ∨ m ∈ o.map (·.1) := by
  induction o with
  | nil => simp [put]
  | cons e rest ih =>
    rw [put]
    split
    · rename_i there
      simp [there]
    · rw [List.map_cons, List.mem_cons, ih, List.map_cons, List.mem_cons, or_left_comm]

/-- The keys of options over others are those of both. -/
theorem keys_override {m : Text} : m ∈ (base.override later).map (·.1) ↔ m ∈ later.map (·.1) ∨ m ∈ base.map (·.1) := by
  induction later generalizing base with
  | nil => simp [override]
  | cons e rest ih =>
    rw [override, List.foldl_cons]
    have more := @ih (base.put e.1 e.2)
    rw [override] at more
    rw [more, keys_put, List.map_cons, List.mem_cons, or_left_comm, or_assoc]

theorem nodup_put (distinct : (o.map (·.1)).Nodup) (n : Text) (v : Value) : ((o.put n v).map (·.1)).Nodup := by
  induction o with
  | nil => simp [put]
  | cons e rest ih =>
    rw [List.map_cons, List.nodup_cons] at distinct
    rw [put]
    split
    · rename_i there
      rw [List.map_cons, List.nodup_cons, ← there]
      exact distinct
    · rename_i there
      rw [List.map_cons, List.nodup_cons, keys_put, not_or]
      exact ⟨⟨there, distinct.1⟩, ih distinct.2⟩

/-- The keys of options over others are distinct if those below are. -/
theorem nodup_override (distinct : (base.map (·.1)).Nodup) : ((base.override later).map (·.1)).Nodup := by
  induction later generalizing base with
  | nil => exact distinct
  | cons e rest ih => exact ih (nodup_put distinct e.1 e.2)

end Options

namespace Settings

variable {c s s₁ s₂ b : Settings} {o o₁ o₂ : Options} {place : Pos}

/-- What settings with options over them are, setting by setting: an option is taken for its setting, and a setting
without an option stays. -/
theorem ofOptions_override (distinct : (o.map (·.1)).Nodup) :
    ofOptions (Options.override b.toOptions o) = .ok s ↔
      ∀ k : Setting, k.coerce ((o.get? k).getD (b.value k)) = .ok (s.value k) := by
  rw [ofOptions_eq_ok_iff]
  refine forall_congr' fun k => ?_
  rw [Options.get?_override distinct, get?_toOptions]
  cases o.get? k with
  | none => rfl
  | some v => rfl

/-- Options are put over settings if their keys are known, and what they put in the place of those in force and the
other options are read. -/
theorem withOverrides_eq_ok_iff : c.withOverrides place o = .ok s ↔
    (∀ e ∈ o, e.1 = configKey ∨ e.1 ∈ keys) ∧ ∃ b, c.replaced place (configOf o) = .ok b ∧
      ofOptions (Options.override b.toOptions (o.filter (·.1 != configKey))) = .ok s := by
  constructor
  · intro applied
    refine ⟨?_, withOverrides_eq_ok c.suffix_encodable applied⟩
    rw [← unknown_isEmpty]
    unfold withOverrides at applied
    split at applied
    · rename_i empty
      rw [List.isEmpty_iff.mp empty]
      rfl
    · dsimp only at applied
      split at applied
      · assumption
      · cases applied
  · rintro ⟨known, b, replaced, read⟩
    rw [← unknown_isEmpty] at known
    unfold withOverrides
    split
    · rename_i empty
      rw [List.isEmpty_iff.mp empty] at replaced read
      cases replaced
      exact congrArg Except.ok (Except.ok.inj ((ofOptions_toOptions c.suffix_encodable).symm.trans read))
    · dsimp only
      rw [if_pos known]
      exact bind_eq_ok.mpr ⟨b, replaced, mapError_eq_ok.mpr read⟩

/-- Options that replace nothing are put over settings setting by setting. -/
theorem withOverrides_plain (distinct : (o.map (·.1)).Nodup) (plain : configKey ∉ o.map (·.1)) :
    c.withOverrides place o = .ok s ↔
      (∀ e ∈ o, e.1 ∈ keys) ∧ ∀ k : Setting, k.coerce ((o.get? k).getD (c.value k)) = .ok (s.value k) := by
  have known : (∀ e ∈ o, e.1 = configKey ∨ e.1 ∈ keys) ↔ ∀ e ∈ o, e.1 ∈ keys :=
    forall₂_congr fun e member => or_iff_right fun same => plain (same ▸ List.mem_map_of_mem member)
  have replaced (b : Settings) : c.replaced place .none = .ok b ↔ c = b :=
    ⟨fun same => Except.ok.inj same, fun same => same ▸ rfl⟩
  simp only [withOverrides_eq_ok_iff, known, Options.configOf_of_plain plain, Options.filter_of_plain plain, replaced,
    exists_eq_left', ofOptions_override distinct]

/-- The value that a setting has after options: the one that is given for it as it is read, or the one before. -/
theorem value_of_withOverrides (distinct : (o.map (·.1)).Nodup) (plain : configKey ∉ o.map (·.1))
    (applied : c.withOverrides place o = .ok s) (k : Setting) :
    (o.get? k = none → s.value k = c.value k) ∧ ∀ v, o.get? k = some v → k.coerce v = .ok (s.value k) := by
  have taken := ((withOverrides_plain distinct plain).mp applied).2 k
  constructor
  · intro absent
    rw [absent, Option.getD_none, coerce_value] at taken
    exact (Except.ok.inj taken).symm
  · intro v given
    rwa [given, Option.getD_some] at taken

/-- Two layers of options are one layer in which the second counts first. -/
theorem withOverrides_override (distinct₁ : (o₁.map (·.1)).Nodup) (distinct₂ : (o₂.map (·.1)).Nodup)
    (plain₁ : configKey ∉ o₁.map (·.1)) (plain₂ : configKey ∉ o₂.map (·.1))
    (first : c.withOverrides place o₁ = .ok s₁) (second : s₁.withOverrides place o₂ = .ok s₂) :
    c.withOverrides place (o₁.override o₂) = .ok s₂ := by
  obtain ⟨known₁, taken₁⟩ := (withOverrides_plain distinct₁ plain₁).mp first
  obtain ⟨known₂, taken₂⟩ := (withOverrides_plain distinct₂ plain₂).mp second
  have plain : configKey ∉ (o₁.override o₂).map (·.1) := by
    rw [Options.keys_override]
    exact fun member => member.elim plain₂ plain₁
  refine (withOverrides_plain (Options.nodup_override distinct₁) plain).mpr ⟨fun e member => ?_, fun k => ?_⟩
  · rcases Options.keys_override.mp (List.mem_map_of_mem (f := (·.1)) member) with inside | inside
    · obtain ⟨e', member', same⟩ := List.mem_map.mp inside
      exact same ▸ known₂ e' member'
    · obtain ⟨e', member', same⟩ := List.mem_map.mp inside
      exact same ▸ known₁ e' member'
  · have later := taken₂ k
    rw [Options.get?_override distinct₂]
    cases given : o₂.get? k with
    | some v =>
      rw [given] at later
      exact later
    | none =>
      -- the second layer leaves the setting to the first one
      rw [given, Option.getD_none, coerce_value] at later
      rw [Option.none_or, taken₁ k, Except.ok.inj later]

/-- What replaces the settings in force does not depend on them. -/
theorem withOverrides_replacing (given : configOf o ≠ .none) (c c' : Settings) :
    c.withOverrides place o = c'.withOverrides place o := by
  have replaced : c.replaced place (configOf o) = c'.replaced place (configOf o) := by
    cases v : configOf o with
    | none => exact absurd v given
    | _ => rfl
  unfold withOverrides
  split
  · rename_i empty
    rw [List.isEmpty_iff] at empty
    subst empty
    exact absurd rfl given
  · dsimp only
    split
    · change (c.replaced place (configOf o) >>= _) = (c'.replaced place (configOf o) >>= _)
      rw [replaced]
    · rfl

/-- Options that were put over settings change nothing when they are put over them again. -/
theorem withOverrides_again (distinct : (o.map (·.1)).Nodup) (applied : c.withOverrides place o = .ok s) :
    s.withOverrides place o = .ok s := by
  by_cases given : configOf o = .none
  · obtain ⟨known, b, replaced, read⟩ := withOverrides_eq_ok_iff.mp applied
    have remaining : ((o.filter (·.1 != configKey)).map (·.1)).Nodup :=
      distinct.sublist (List.filter_sublist.map _)
    rw [ofOptions_override remaining] at read
    refine withOverrides_eq_ok_iff.mpr ⟨known, s, by rw [given]; rfl, ?_⟩
    refine (ofOptions_override remaining).mpr fun k => ?_
    have taken := read k
    cases found : Options.get? (o.filter (·.1 != configKey)) k with
    | none => exact coerce_value s k
    | some v =>
      rw [found] at taken
      exact taken
  · rw [← withOverrides_replacing given c s]
    exact applied

/-- Options put over settings, layer by layer. Two layers that replace nothing are one in which the second counts
first: what a setting is given there is what it is taken for, and a setting that is not mentioned stays. A layer that
was put over settings changes nothing any more, and the outcome of one that replaces the settings in force, a refusal
included, does not depend on them. -/
theorem overrides_layered :
    (∀ (c s₁ s₂ : Settings) (o₁ o₂ : Options) (place : Pos),
      (o₁.map (·.1)).Nodup → (o₂.map (·.1)).Nodup →
      configKey ∉ o₁.map (·.1) → configKey ∉ o₂.map (·.1) →
      c.withOverrides place o₁ = .ok s₁ → s₁.withOverrides place o₂ = .ok s₂ →
        c.withOverrides place (o₁.override o₂) = .ok s₂ ∧
        ∀ k : Setting, ((o₁.override o₂).get? k = none → s₂.value k = c.value k) ∧
          ∀ v, (o₁.override o₂).get? k = some v → k.coerce v = .ok (s₂.value k)) ∧
    (∀ (c s : Settings) (o : Options) (place : Pos), (o.map (·.1)).Nodup →
      c.withOverrides place o = .ok s → s.withOverrides place o = .ok s) ∧
    (∀ (o : Options) (place : Pos), configOf o ≠ .none →
      ∀ c c' : Settings, c.withOverrides place o = c'.withOverrides place o) := by
  refine ⟨?_, fun _ _ _ _ => withOverrides_again, fun _ _ => withOverrides_replacing⟩
  intro c s₁ s₂ o₁ o₂ place distinct₁ distinct₂ plain₁ plain₂ first second
  have merged := withOverrides_override distinct₁ distinct₂ plain₁ plain₂ first second
  have plain : configKey ∉ (o₁.override o₂).map (·.1) := by
    rw [Options.keys_override]
    exact fun member => member.elim plain₂ plain₁
  exact ⟨merged, value_of_withOverrides (Options.nodup_override distinct₁) plain merged⟩

end Settings

namespace Samples

/-- A truth value as a word and a name as bytes. -/
def lowerLayer : Options :=
  [(Setting.collectMissing.key, .str "Yes"), (Setting.factoryName.key, .bytes [109, 97, 107, 101])]

/-- Another name for the factory, and one for the finalizer. -/
def upperLayer : Options :=
  [(Setting.finalizerName.key, .str "done"), (Setting.factoryName.key, .str "fresh")]

/-- The lower layer over the defaults. -/
def lower : Settings :=
  { (default : Settings) with factoryName := ⟨"make", by decide +kernel⟩, collectMissing := true }

/-- Both layers over the defaults. -/
def layered : Settings :=
  { lower with factoryName := ⟨"fresh", by decide +kernel⟩, finalizerName := ⟨"done", by decide +kernel⟩ }

/-- Settings in place of those in force. -/
def replacingLayer : Options :=
  [(configKey, .dict [(.str Setting.factoryName.key, .str "make")])]

end Samples

open Samples in
theorem Settings.overrides_layered_two_layers :
    (default : Settings).withOverrides .start lowerLayer = .ok lower ∧
      lower.withOverrides .start upperLayer = .ok layered ∧
      (default : Settings).withOverrides .start (lowerLayer.override upperLayer) = .ok layered ∧
      layered.withOverrides .start upperLayer = .ok layered ∧
      layered.withOverrides .start replacingLayer = (default : Settings).withOverrides .start replacingLayer := by
  obtain ⟨merged, again, replacing⟩ := overrides_layered
  have first : (default : Settings).withOverrides .start lowerLayer = .ok lower := rfl
  have second : lower.withOverrides .start upperLayer = .ok layered := rfl
  have given : configOf replacingLayer ≠ .none := by
    intro none
    cases none
  exact ⟨first, second,
    (merged _ _ _ _ _ _ (by decide +kernel) (by decide +kernel) (by decide +kernel) (by decide +kernel)
      first second).1,
    again _ _ _ _ (by decide +kernel) second, replacing _ _ given _ _⟩

end FluentRecords
