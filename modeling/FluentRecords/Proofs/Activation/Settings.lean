import FluentRecords.Activation.Request
import FluentRecords.Proofs.Outcome
import Mathlib.Data.List.Nodup

/-!
Settings and options. Settings that were read are given back by their own options, and the arguments of a
decorator that are literals under distinct names are read as the options they spell. A request that is expanded
without an error has settings, which come from its decorator.
-/

namespace FluentRecords

namespace Settings

variable {o : Options} {s : Settings}

theorem readOption_eq_ok {α : Type} {k : Setting} {dflt a : α} {read : Value → Except SettingCause α} :
    readOption o k dflt read = .ok a ↔
      (o.get? k = none ∧ dflt = a) ∨ ∃ v, o.get? k = some v ∧ read v = .ok a := by
  unfold readOption
  cases o.get? k with
  | none => simp
  | some v =>
    dsimp only
    cases result : read v with
    | ok b => simp [result]
    | error c => simp [result]

/-- Settings are read if each of them is. -/
theorem ofOptions_eq_ok : ofOptions o = .ok s ↔
    readOption o .builderSuffix default.builderSuffix readSuffix = .ok s.builderSuffix ∧
      readOption o .factoryName default.factoryName readName = .ok s.factoryName ∧
      readOption o .finalizerName default.finalizerName readName = .ok s.finalizerName ∧
      readOption o .wrapperName default.wrapperName readName = .ok s.wrapperName ∧
      readOption o .activationName default.activationName readName = .ok s.activationName ∧
      readOption o .collectMissing default.collectMissing readTruth = .ok s.collectMissing := by
  unfold ofOptions
  dsimp only
  constructor
  · intro read
    split at read
    · rename_i suffix factory finalizer wrapper activation collect
      cases read
      exact ⟨suffix, factory, finalizer, wrapper, activation, collect⟩
    · cases read
  · rintro ⟨suffix, factory, finalizer, wrapper, activation, collect⟩
    rw [suffix, factory, finalizer, wrapper, activation, collect]

/-- A suffix that is read has a UTF-8 form. -/
theorem readSuffix_encodable {v : Value} {t : Suffix} (read : readSuffix v = .ok t) :
    t.val.any Text.isSurrogate = false := by
  obtain ⟨text, _, read⟩ := bind_eq_ok.mp read
  split at read
  · cases read
  · rename_i encodable
    split at read
    · cases read
    · split at read
      · cases read
        exact Bool.eq_false_iff.mpr encodable
      · cases read

theorem ofOptions_encodable (read : ofOptions o = .ok s) : s.builderSuffix.val.any Text.isSurrogate = false := by
  rcases readOption_eq_ok.mp (ofOptions_eq_ok.mp read).1 with ⟨_, same⟩ | ⟨v, _, read⟩
  · rw [← same]
    decide
  · exact readSuffix_encodable read

theorem readName_str (n : LegalName) : readName (.str n.val) = .ok n := by
  have legal := n.property
  simp only [readName, readText, bind, Except.bind, legal, dif_pos]

/-- Settings are given back by their own options, if their suffix has a UTF-8 form. -/
theorem ofOptions_toOptions (encodable : s.builderSuffix.val.any Text.isSurrogate = false) :
    ofOptions s.toOptions = .ok s := by
  have suffix : readSuffix (.str s.builderSuffix.val) = .ok s.builderSuffix := by
    have valid := s.builderSuffix.property
    have some : s.builderSuffix.val.isEmpty = false := by
      rw [Text.isSuffix, Bool.and_eq_true, Bool.not_eq_true'] at valid
      exact valid.1
    simp only [readSuffix, readText, bind, Except.bind, encodable, some, valid, Bool.false_eq_true, if_false, dif_pos]
  rw [ofOptions_eq_ok]
  simp only [readOption_eq_ok]
  exact ⟨Or.inr ⟨_, rfl, suffix⟩, Or.inr ⟨_, rfl, readName_str _⟩, Or.inr ⟨_, rfl, readName_str _⟩,
    Or.inr ⟨_, rfl, readName_str _⟩, Or.inr ⟨_, rfl, readName_str _⟩, Or.inr ⟨_, rfl, rfl⟩⟩

theorem default_encodable : default.builderSuffix.val.any Text.isSurrogate = false := by
  decide

end Settings

namespace Options

/-- A key that is new goes to the end. -/
theorem put_of_not_mem {o : Options} {k : Text} (fresh : k ∉ o.map (·.1)) (v : Value) : o.put k v = o ++ [(k, v)] := by
  induction o with
  | nil => rfl
  | cons e rest ih =>
    rw [List.map_cons, List.mem_cons, not_or] at fresh
    rw [put, if_neg fun same => fresh.1 same.symm, ih fresh.2, List.cons_append]

/-- Options under new keys are appended. -/
theorem override_of_nodup {base later : Options} (distinct : ((base ++ later).map (·.1)).Nodup) :
    base.override later = base ++ later := by
  induction later generalizing base with
  | nil => exact (List.append_nil base).symm
  | cons e rest ih =>
    have fresh : e.1 ∉ base.map (·.1) := fun member => by
      rw [List.map_append, List.map_cons] at distinct
      exact (List.nodup_append'.mp distinct).2.2 member List.mem_cons_self
    have together : base ++ [(e.1, e.2)] ++ rest = base ++ e :: rest := List.append_assoc _ _ _
    rw [override, List.foldl_cons, put_of_not_mem fresh]
    exact (ih (by rwa [together])).trans together

theorem ofEntries?_mapping (o : Options) : ofEntries? (o.map fun e => (.str e.1, e.2)) = some o := by
  induction o with
  | nil => rfl
  | cons e rest ih => rw [List.map_cons, ofEntries?, ih]; rfl

/-- A mapping of options is read as the options. -/
theorem ofMapping_mapping (o : Options) : ofMapping o.mapping = .ok o := by
  rw [mapping, ofMapping, ofEntries?_mapping]

end Options

/-- A keyword argument that spells an option: a name and the literal of a value. -/
def Keyword.Spells (k : Keyword) (o : Text × Value) : Prop :=
  k.name = some o.1 ∧ k.value.literal = .ok o.2

/-- A literal is no call of the settings. -/
theorem Expr.configCall?_of_literal {e : Expr} {v : Value} (literal : e.literal = .ok v) : e.configCall? = none := by
  cases e with
  | call f args keywords =>
    cases f with
    | name n =>
      cases args with
      | nil =>
        cases keywords with
        | nil =>
          -- an empty set is written as a call
          rw [Expr.literal] at literal
          split at literal
          · rename_i same
            rw [same, Expr.configCall?]
            exact if_neg (by decide)
          · cases literal
        | cons k ks => cases literal
      | cons a as => cases literal
    | _ => cases literal
  | _ => rfl

theorem Keyword.Spells.not_isConfigCall {k : Keyword} {e : Text × Value} (spells : k.Spells e) :
    k.isConfigCall = false := by
  rw [isConfigCall, Expr.configCall?_of_literal spells.2, Option.isSome_none, Bool.and_false]

/-- Keyword arguments that are literals hold no call of the settings. -/
theorem Keyword.isConfigCall_of_spells {ks : List Keyword} {o : Options} (spelled : List.Forall₂ Keyword.Spells ks o) :
    ∀ k ∈ ks, k.isConfigCall = false := by
  induction spelled with
  | nil => exact fun _ none => by cases none
  | cons spells _ ih => exact List.forall_mem_cons.mpr ⟨spells.not_isConfigCall, ih⟩

theorem splitLast?_eq_none {α : Type} {p : α → Bool} {as : List α} (quiet : ∀ a ∈ as, p a = false) :
    splitLast? p as = none := by
  induction as with
  | nil => rfl
  | cons a rest ih =>
    obtain ⟨here, later⟩ := List.forall_mem_cons.mp quiet
    rw [splitLast?, ih later, here]
    rfl

/-- The last element that passes is split off. -/
theorem splitLast?_append {α : Type} {p : α → Bool} {before after : List α} {a : α} (here : p a = true)
    (quiet : ∀ a ∈ after, p a = false) : splitLast? p (before ++ a :: after) = some (before, a, after) := by
  induction before with
  | nil => rw [List.nil_append, splitLast?, splitLast?_eq_none quiet, here]; rfl
  | cons b rest ih => rw [List.cons_append, splitLast?, ih]

/-- Keyword arguments under distinct names are read as the options they spell. -/
theorem readKeywords_of_spells {owner : Text} {done o : Options} {ks : List Keyword}
    (spelled : List.Forall₂ Keyword.Spells ks o) (distinct : ((done ++ o).map (·.1)).Nodup) :
    readKeywords owner done ks = .ok (done ++ o) := by
  induction spelled generalizing done with
  | nil => rw [List.append_nil]; rfl
  | @cons k e ks o spells _ ih =>
    have fresh : e.1 ∉ done.map (·.1) := fun member => by
      rw [List.map_append, List.map_cons] at distinct
      exact (List.nodup_append'.mp distinct).2.2 member List.mem_cons_self
    have together : done ++ [(e.1, e.2)] ++ o = done ++ e :: o := List.append_assoc _ _ _
    have literal : k.literal owner = .ok e := by
      rw [Keyword.literal, spells.1]
      dsimp only
      rw [spells.2]
    rw [readKeywords, literal]
    change readKeywords owner (Options.put e.1 e.2 done) ks = _
    rw [Options.put_of_not_mem fresh, ih (by rwa [together]), together]

namespace Settings

/-- The value that options give under `config`. -/
def configOf (o : Options) : Value :=
  ((o.find? (·.1 == configKey)).map (·.2)).getD .none

variable {base s b : Settings} {place : Pos} {o : Options}

/-- Options are put over the settings that the value under `config` leaves in force. -/
theorem withOverrides_eq_ok (encodable : base.builderSuffix.val.any Text.isSurrogate = false)
    (read : base.withOverrides place o = .ok s) :
    ∃ b, base.replaced place (configOf o) = .ok b ∧
      ofOptions (Options.override b.toOptions (o.filter (·.1 != configKey))) = .ok s := by
  unfold withOverrides at read
  cases o with
  | nil =>
    cases read
    exact ⟨base, rfl, ofOptions_toOptions encodable⟩
  | cons e rest =>
    rw [if_neg (by exact Bool.false_ne_true)] at read
    dsimp only at read
    split at read
    · obtain ⟨b, replaced, read⟩ := bind_eq_ok.mp read
      exact ⟨b, replaced, mapError_eq_ok.mp read⟩
    · cases read

theorem configOf_cons (v : Value) (o : Options) : configOf ((configKey, v) :: o) = v := by
  rw [configOf, List.find?_cons, beq_self_eq_true]
  rfl

theorem replaced_mapping (read : base.replaced place o.mapping = .ok b) : ofOptions o = .ok b := by
  change ((Options.ofMapping o.mapping).mapError .breakdown >>= ofOptionsAt place) = .ok b at read
  rw [Options.ofMapping_mapping] at read
  exact mapError_eq_ok.mp read

/-- Settings made in the arguments are read first, and the other options are put over them. -/
theorem withOverrides_config (encodable : base.builderSuffix.val.any Text.isSurrogate = false) {later : Options}
    (read : base.withOverrides place ((configKey, o.mapping) :: later) = .ok s) :
    ∃ b, ofOptions o = .ok b ∧
      ofOptions (Options.override b.toOptions (later.filter (·.1 != configKey))) = .ok s := by
  obtain ⟨b, replaced, read⟩ := withOverrides_eq_ok encodable read
  rw [configOf_cons] at replaced
  rw [List.filter_cons, bne_self_eq_false, if_neg Bool.false_ne_true] at read
  exact ⟨b, replaced_mapping replaced, read⟩

end Settings

/-- The settings of an activation decorator over others. -/
def Decorator.settings (base : Settings) (d : Decorator) : Except ArgumentFault Settings := do
  let o ← d.overrides
  base.withOverrides d.place o

namespace Decorator

variable {place : Pos} {f g : Expr}

theorem overrides_bare {e : Expr} {n : Text} (named : e.lastName? = some n) :
    (Decorator.mk place e).overrides = .ok [] := by
  cases e with
  | call f args keywords => cases named
  | _ => rfl

/-- Literals under distinct names are read as the options they spell. -/
theorem overrides_literals {ks : List Keyword} {o : Options} (spelled : List.Forall₂ Keyword.Spells ks o)
    (distinct : (o.map (·.1)).Nodup) : (Decorator.mk place (.call f [] ks)).overrides = .ok o := by
  unfold overrides
  dsimp only
  rw [splitLast?_eq_none (Keyword.isConfigCall_of_spells spelled)]
  exact readKeywords_of_spells spelled distinct

/-- A call of the settings is read as the mapping of its options. -/
theorem overrides_config {before after own : List Keyword} {p : Pos} {o o₁ o₂ : Options}
    (named : g.lastName? = some configName) (inner : List.Forall₂ Keyword.Spells own o)
    (distinctInner : (o.map (·.1)).Nodup) (first : List.Forall₂ Keyword.Spells before o₁)
    (last : List.Forall₂ Keyword.Spells after o₂) (distinct : (configKey :: (o₁ ++ o₂).map (·.1)).Nodup) :
    (Decorator.mk place (.call f [] (before ++ .mk (some configKey) p (.call g [] own) :: after))).overrides =
      .ok ((configKey, o.mapping) :: (o₁ ++ o₂)) := by
  have parts : (Expr.call g [] own).configCall? = some ([], own) := by
    cases g with
    | name n =>
      cases named
      rw [Expr.configCall?, if_pos rfl]
    | member e a =>
      cases named
      rw [Expr.configCall?, if_pos rfl]
    | _ => cases named
  have here : (Keyword.mk (some configKey) p (.call g [] own)).isConfigCall = true := by
    rw [Keyword.isConfigCall]
    change ((some configKey == some configKey) && (Expr.call g [] own).configCall?.isSome) = true
    rw [parts, beq_self_eq_true]
    rfl
  have config : readArguments configName p [] own = .ok o := readKeywords_of_spells inner distinctInner
  have others : readArguments decoratorName place [] (before ++ after) = .ok (o₁ ++ o₂) :=
    readKeywords_of_spells (List.rel_append first last) (List.nodup_cons.mp distinct).2
  unfold overrides
  dsimp only
  rw [splitLast?_append here (Keyword.isConfigCall_of_spells last)]
  change (readArguments configName p (((Expr.call g [] own).configCall?).getD ([], [])).1
    (((Expr.call g [] own).configCall?).getD ([], [])).2 >>= _) = _
  rw [parts]
  have together : Options.override [(configKey, o.mapping)] (o₁ ++ o₂) = (configKey, o.mapping) :: (o₁ ++ o₂) :=
    Options.override_of_nodup distinct
  exact bind_eq_ok.mpr ⟨o, config, bind_eq_ok.mpr ⟨o₁ ++ o₂, others, congrArg Except.ok together⟩⟩

end Decorator

namespace Request

variable {base : Settings} {r : Request} {e : Expansion}

/-- A request of a nested declaration is reported; any other is expanded under the settings of its decorator. -/
theorem expand_eq (settings : Settings) (r : Request) : r.expand settings =
    if r.topLevel = true then
      match r.decorator.settings settings with
      | .ok s => Rendering.orBreakdown (Expansion.expand s (.stmt r.stmt))
      | .error f => expand.faulty r f
    else .ok (expand.refused r ⟨.nested r.name, r.stmt.place⟩) := by
  unfold expand Decorator.settings
  cases r.topLevel with
  | false => rfl
  | true =>
    cases read : r.decorator.overrides with
    | error f => rfl
    | ok o =>
      cases made : settings.withOverrides r.decorator.place o with
      | error f => simp [made, bind, Except.bind]
      | ok s => simp [made, bind, Except.bind]

/-- How the expansion of a request ends: a nested declaration is reported, and so are arguments that cannot be used;
any other declaration is expanded under the settings of its decorator. -/
inductive Ends (base : Settings) (r : Request) : Expansion → Prop
  | nested (deep : r.topLevel = false) : Ends base r (expand.refused r ⟨.nested r.name, r.stmt.place⟩)
  | unset {f : RequestFault} (failed : r.decorator.settings base = .error (.request f)) :
    Ends base r (expand.refused r f)
  | expanded {s : Settings} {e : Expansion} (topLevel : r.topLevel = true) (read : r.decorator.settings base = .ok s)
    (run : Expansion.expand s (.stmt r.stmt) = .ok e) : Ends base r e

theorem ends_of_expand (run : r.expand base = .ok e) : r.Ends base e := by
  rw [expand_eq] at run
  split at run
  case isFalse deep =>
    cases run
    exact .nested (Bool.eq_false_iff.mpr deep)
  case isTrue topLevel =>
    cases made : r.decorator.settings base with
    | ok s =>
      rw [made] at run
      exact .expanded topLevel made (Rendering.orBreakdown_eq_ok.mp run)
    | error f =>
      rw [made] at run
      cases f with
      | request f =>
        cases run
        exact .unset made
      | breakdown b => cases run

/-- A request that is expanded without an error is not nested and has settings, under which its declaration is
expanded. -/
theorem expand_accepted (run : r.expand base = .ok e) (accepted : e.hasErrors = false) :
    r.topLevel = true ∧
      ∃ s, r.decorator.settings base = .ok s ∧ Expansion.expand s (.stmt r.stmt) = .ok e := by
  cases ends_of_expand run with
  | nested => cases accepted
  | unset => cases accepted
  | @expanded s _ topLevel read run => exact ⟨topLevel, s, read, run⟩

end Request

end FluentRecords
