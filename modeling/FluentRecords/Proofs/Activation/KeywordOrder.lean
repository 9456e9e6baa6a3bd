import FluentRecords.Proofs.Activation.Layers
import FluentRecords.Proofs.Activation.Unplaced
import Mathlib.Data.List.Perm.Basic

/-!
The order of the arguments of an activation decorator. Arguments under distinct names are options under distinct keys,
and settings are looked up in options by key. So it does not matter in which order the arguments are written down,
nor in which order those of a call of the settings are among them.
-/

namespace FluentRecords

/-- The members of a list in another order, each in relation to what stands for it. -/
def Rearranged {α : Type} (R : α → α → Prop) (as bs : List α) : Prop :=
  ∃ cs, as.Perm cs ∧ List.Forall₂ R cs bs

namespace Rearranged

variable {α : Type} {R : α → α → Prop} {as as' bs bs' : List α}

theorem symm (symmetric : ∀ a b, R a b → R b a) (rearranged : Rearranged R as bs) : Rearranged R bs as := by
  obtain ⟨cs, order, related⟩ := rearranged
  obtain ⟨ds, related', order'⟩ := List.perm_comp_forall₂ order related
  exact ⟨ds, order'.symm, (related'.imp symmetric).flip⟩

theorem perm_left (rearranged : Rearranged R as bs) (order : as'.Perm as) : Rearranged R as' bs := by
  obtain ⟨cs, order', related⟩ := rearranged
  exact ⟨cs, order.trans order', related⟩

theorem perm_right (rearranged : Rearranged R as bs) (order : bs.Perm bs') : Rearranged R as bs' := by
  obtain ⟨cs, order', related⟩ := rearranged
  obtain ⟨ds, flipped, order''⟩ := List.perm_comp_forall₂ order.symm related.flip
  exact ⟨ds, order'.trans order''.symm, flipped.flip⟩

theorem exists_of_mem (rearranged : Rearranged R as bs) {b : α} (member : b ∈ bs) : ∃ a ∈ as, R a b := by
  obtain ⟨cs, order, related⟩ := rearranged
  have found : ∃ c ∈ cs, R c b := by
    clear order
    induction related with
    | nil => cases member
    | cons here _ ih =>
      rcases List.mem_cons.mp member with rfl | later
      · exact ⟨_, List.mem_cons_self, here⟩
      · obtain ⟨c, among, there⟩ := ih later
        exact ⟨c, List.mem_cons_of_mem _ among, there⟩
  obtain ⟨c, among, there⟩ := found
  exact ⟨c, order.mem_iff.mpr among, there⟩

end Rearranged

/-- What members are in relation to does not depend on their order, up to its own. -/
theorem exists_perm_forall₂_congr {α β : Type} {R : α → β → Prop} {as as' : List α} {bs : List β}
    (order : as.Perm as') :
    (∃ cs, bs.Perm cs ∧ List.Forall₂ R as cs) ↔ ∃ cs, bs.Perm cs ∧ List.Forall₂ R as' cs := by
  have one {ls ls' : List α} (order : ls.Perm ls') :
      (∃ cs, bs.Perm cs ∧ List.Forall₂ R ls cs) → ∃ cs, bs.Perm cs ∧ List.Forall₂ R ls' cs := by
    rintro ⟨cs, same, related⟩
    obtain ⟨ds, related', same'⟩ := List.perm_comp_forall₂ order.symm related
    exact ⟨ds, same.trans same'.symm, related'⟩
  exact ⟨one order, one order.symm⟩

namespace Keyword

/-- The same argument by name, perhaps at another place. -/
def Moved (k k' : Keyword) : Prop :=
  k.name = k'.name ∧ k.value.unplaced = k'.value.unplaced

/-- An argument of an activation decorator that was moved, or a call of the settings in which arguments by name come
in another order. -/
inductive Reordered : Keyword → Keyword → Prop
  | moved {k k' : Keyword} (same : k.Moved k') : Reordered k k'
  | config {p p' : Pos} {g g' : Expr} {args args' : List Expr} {own own' : List Keyword}
    (named : g.lastName? = some configName) (callee : g.unplaced = g'.unplaced)
    (positional : args.map Expr.unplaced = args'.map Expr.unplaced) (order : Rearranged Moved own own') :
    Reordered (.mk (some configKey) p (.call g args own)) (.mk (some configKey) p' (.call g' args' own'))

variable {k k' : Keyword}

theorem Moved.symm (moved : k.Moved k') : k'.Moved k :=
  ⟨moved.1.symm, moved.2.symm⟩

theorem Reordered.name (reordered : k.Reordered k') : k.name = k'.name := by
  cases reordered with
  | moved same => exact same.1
  | config named callee positional order => rfl

theorem Reordered.symm (reordered : k.Reordered k') : k'.Reordered k := by
  cases reordered with
  | moved same => exact .moved same.symm
  | @config p p' g g' args args' own own' named callee positional order =>
    have named' : g'.lastName? = some configName := by
      rw [← Expr.lastName?_unplaced, ← callee, Expr.lastName?_unplaced, named]
    exact .config named' callee.symm positional.symm (order.symm fun _ _ => Moved.symm)

/-- No two arguments have the same name, and neither have those of a call of the settings among them. -/
structure Distinct (ks : List Keyword) : Prop where
  names : (ks.filterMap Keyword.name).Nodup
  config : ∀ k ∈ ks, k.name = some configKey → ∀ args own, k.value.configCall? = some (args, own) →
    (own.filterMap Keyword.name).Nodup

/-- What an argument by name gives: an option that it spells, or the options of a call of the settings. -/
inductive Yields : Keyword → Text × Value → Prop
  | literal {k : Keyword} {e : Text × Value} (spells : k.Spells e) : Yields k e
  | config {p : Pos} {call : Expr} {own : List Keyword} {o : Options} (parts : call.configCall? = some ([], own))
    (spelled : List.Forall₂ Spells own o) : Yields (.mk (some configKey) p call) (configKey, o.mapping)

theorem Yields.name {e : Text × Value} (yields : k.Yields e) : k.name = some e.1 := by
  cases yields with
  | literal spells => exact spells.1
  | config parts spelled => rfl

theorem isConfigCall_of_parts {p : Pos} {call : Expr} {args : List Expr} {own : List Keyword}
    (parts : call.configCall? = some (args, own)) : (Keyword.mk (some configKey) p call).isConfigCall = true := by
  rw [isConfigCall]
  change ((some configKey == some configKey) && call.configCall?.isSome) = true
  rw [parts, beq_self_eq_true]
  rfl

/-- Where no argument is a call of the settings, what they give is what they spell. -/
theorem yields_iff_spells {ks : List Keyword} {o : Options} (quiet : ∀ k ∈ ks, k.isConfigCall = false) :
    List.Forall₂ Yields ks o ↔ List.Forall₂ Spells ks o := by
  refine ⟨fun given => ?_, fun spelled => spelled.imp fun _ _ => .literal⟩
  induction given with
  | nil => exact .nil
  | cons yields _ ih =>
    obtain ⟨here, others⟩ := List.forall_mem_cons.mp quiet
    refine .cons ?_ (ih others)
    cases yields with
    | literal spells => exact spells
    | config parts spelled =>
      rw [isConfigCall_of_parts parts] at here
      cases here

/-- A call of the settings in front of other arguments gives its options under one key, and then what these spell. -/
theorem yields_config_iff {q : Pos} {call : Expr} {positional : List Expr} {own rest : List Keyword} {o : Options}
    (parts : call.configCall? = some (positional, own)) (quiet : ∀ k ∈ rest, k.isConfigCall = false) :
    List.Forall₂ Yields (.mk (some configKey) q call :: rest) o ↔
      positional = [] ∧ ∃ config later : Options, List.Forall₂ Spells own config ∧ List.Forall₂ Spells rest later ∧
        (configKey, config.mapping) :: later = o := by
  constructor
  · intro given
    cases given with
    | cons here others =>
      cases here with
      | literal spells =>
        cases spells.not_isConfigCall.symm.trans (isConfigCall_of_parts parts)
      | @config _ _ _ config parts' settings =>
        cases parts.symm.trans parts'
        exact ⟨rfl, config, _, settings, (yields_iff_spells quiet).mp others, rfl⟩
  · rintro ⟨rfl, config, later, settings, spelled, rfl⟩
    exact .cons (.config parts settings) ((yields_iff_spells quiet).mpr spelled)

theorem isConfigCall_of_name_ne (other : k.name ≠ some configKey) : k.isConfigCall = false := by
  rw [isConfigCall, beq_eq_false_iff_ne.mpr other, Bool.false_and]

theorem names_of_yields {ks : List Keyword} {o : Options} (given : List.Forall₂ Yields ks o) :
    ks.filterMap Keyword.name = o.map (·.1) := by
  induction given with
  | nil => rfl
  | cons yields _ ih => rw [List.filterMap_cons_some yields.name, ih, List.map_cons]

theorem names_of_spells {ks : List Keyword} {o : Options} (spelled : List.Forall₂ Spells ks o) :
    ks.filterMap Keyword.name = o.map (·.1) :=
  names_of_yields (spelled.imp fun _ _ => .literal)

end Keyword

/-- Arguments by name are read if each of them spells an option. -/
theorem exists_spells_of_readKeywords {owner : Text} {done o : Options} {ks : List Keyword}
    (read : readKeywords owner done ks = .ok o) : ∃ o', List.Forall₂ Keyword.Spells ks o' := by
  induction ks generalizing done with
  | nil => exact ⟨[], .nil⟩
  | cons k rest ih =>
    obtain ⟨e, here, later⟩ := bind_eq_ok.mp read
    obtain ⟨o', spelled⟩ := ih later
    exact ⟨e :: o', .cons (Keyword.literal_eq_ok.mp here) spelled⟩

/-- Arguments under distinct names are read as the options that they spell, and none is given by position. -/
theorem readArguments_eq_ok {owner : Text} {place : Pos} {args : List Expr} {ks : List Keyword} {o : Options}
    (distinct : (ks.filterMap Keyword.name).Nodup) :
    readArguments owner place args ks = .ok o ↔ args = [] ∧ List.Forall₂ Keyword.Spells ks o := by
  have fresh {o' : Options} (spelled : List.Forall₂ Keyword.Spells ks o') : readKeywords owner [] ks = .ok o' :=
    readKeywords_of_spells spelled (Keyword.names_of_spells spelled ▸ distinct)
  rw [readArguments]
  cases args with
  | nil =>
    rw [List.isEmpty_nil, if_pos rfl]
    refine ⟨fun read => ⟨rfl, ?_⟩, fun spelled => fresh spelled.2⟩
    obtain ⟨o', spelled⟩ := exists_spells_of_readKeywords read
    cases (fresh spelled).symm.trans read
    exact spelled
  | cons e es => exact iff_of_false (fun read => by cases read) fun none => by cases none.1

/-- An option, or one for the same key that gives the same settings in another order. -/
inductive Options.Similar : Text × Value → Text × Value → Prop
  | refl {e : Text × Value} : Similar e e
  | config {o o' : Options} (order : o.Perm o') (distinct : (o.map (·.1)).Nodup) :
    Similar (configKey, o.mapping) (configKey, o'.mapping)

namespace Options

variable {o o' : Options} {k : Setting} {v : Value}

theorem Similar.key {e e' : Text × Value} (similar : Similar e e') : e.1 = e'.1 := by
  cases similar <;> rfl

theorem find?_eq_some_iff {n : Text} (distinct : (o.map (·.1)).Nodup) :
    (o.find? (·.1 == n)).map (·.2) = some v ↔ (n, v) ∈ o := by
  induction o with
  | nil => exact iff_of_false (fun none => by cases none) List.not_mem_nil
  | cons e rest ih =>
    obtain ⟨m, w⟩ := e
    rw [List.map_cons, List.nodup_cons] at distinct
    by_cases same : m = n
    · subst same
      have fresh : (m, v) ∉ rest := fun inside => distinct.1 (List.mem_map_of_mem (f := (·.1)) inside)
      rw [List.find?_cons_of_pos (by simp), List.mem_cons, or_iff_left fresh]
      simp [eq_comm]
    · have other : (n, v) ≠ (m, w) := fun pair => same (congrArg Prod.fst pair).symm
      rw [List.find?_cons_of_neg (by simp [same]), ih distinct.2, List.mem_cons, or_iff_right other]

/-- What is given under a key does not depend on the order of options. -/
theorem find?_perm (order : o.Perm o') (distinct : (o.map (·.1)).Nodup) (n : Text) :
    (o.find? (·.1 == n)).map (·.2) = (o'.find? (·.1 == n)).map (·.2) := by
  refine Option.ext fun v => ?_
  rw [find?_eq_some_iff distinct, find?_eq_some_iff ((order.map _).nodup_iff.mp distinct)]
  exact order.mem_iff

theorem get?_perm (order : o.Perm o') (distinct : (o.map (·.1)).Nodup) (k : Setting) : o.get? k = o'.get? k :=
  find?_perm order distinct k.key

theorem keys_similar (similar : List.Forall₂ Similar o o') : o.map (·.1) = o'.map (·.1) :=
  map_eq_of_forall₂ similar fun _ _ => Similar.key

/-- Beside the value under `config`, similar options are the same. -/
theorem filter_similar (similar : List.Forall₂ Similar o o') :
    o.filter (·.1 != configKey) = o'.filter (·.1 != configKey) := by
  induction similar with
  | nil => rfl
  | cons here _ ih =>
    cases here with
    | refl => rw [List.filter_cons, List.filter_cons, ih]
    | config order distinct => exact ih

/-- Similar options put the same settings, or the same options in another order, in the place of those in force. -/
theorem configOf_similar (similar : List.Forall₂ Similar o o') :
    Settings.configOf o = Settings.configOf o' ∨ ∃ u u' : Options, u.Perm u' ∧ (u.map (·.1)).Nodup ∧
      Settings.configOf o = u.mapping ∧ Settings.configOf o' = u'.mapping := by
  induction similar with
  | nil => exact Or.inl rfl
  | @cons e e' rest rest' here _ ih =>
    cases here with
    | @refl e =>
      by_cases called : e.1 = configKey
      · refine Or.inl ?_
        rw [Settings.configOf, Settings.configOf, List.find?_cons_of_pos (by simp [called]),
          List.find?_cons_of_pos (by simp [called])]
      · have skipped (o : Options) : Settings.configOf (e :: o) = Settings.configOf o := by
          rw [Settings.configOf, Settings.configOf, List.find?_cons_of_neg (by simp [called])]
        rwa [skipped, skipped]
    | config order distinct =>
      exact Or.inr ⟨_, _, order, distinct, Settings.configOf_cons _ _, Settings.configOf_cons _ _⟩

end Options

namespace Settings

variable {c b s : Settings} {place place' : Pos} {o o' : Options}

/-- Settings that are read from options do not depend on their order. -/
theorem ofOptions_perm (order : o.Perm o') (distinct : (o.map (·.1)).Nodup) : ofOptions o = ofOptions o' := by
  simp only [ofOptions, readOption, Options.get?_perm order distinct]

theorem replaced_eq_ok {v : Value} : c.replaced place v = .ok b ↔
    v = .none ∧ c = b ∨ v ≠ .none ∧ ∃ o, Options.ofMapping v = .ok o ∧ ofOptions o = .ok b := by
  have other (w : Value) : ((Options.ofMapping w).mapError ArgumentFault.breakdown >>= ofOptionsAt place) = .ok b ↔
      ∃ o, Options.ofMapping w = .ok o ∧ ofOptions o = .ok b := by
    simp only [bind_eq_ok, mapError_eq_ok, ofOptionsAt]
  cases v with
  | none =>
    change Except.ok c = .ok b ↔ _
    simp
  | _ =>
    refine Iff.trans (other _) ?_
    simp

/-- The settings that are put in the place of those in force do not depend on the order of options either. -/
theorem replaced_similar (distinct : (o.map (·.1)).Nodup) (rearranged : Rearranged Options.Similar o o')
    (replaced : c.replaced place (configOf o) = .ok b) : c.replaced place' (configOf o') = .ok b := by
  obtain ⟨u, order, similar⟩ := rearranged
  have same : configOf o = configOf u :=
    congrArg (Option.getD · Value.none) (Options.find?_perm order distinct configKey)
  rw [same, replaced_eq_ok] at replaced
  rw [replaced_eq_ok]
  rcases Options.configOf_similar similar with same | ⟨w, w', order', distinct', first, second⟩
  · rwa [← same]
  · rw [first, Options.ofMapping_mapping] at replaced
    rw [second, Options.ofMapping_mapping]
    rcases replaced with ⟨none, _⟩ | ⟨_, _, whole, read⟩
    · cases none
    · cases whole
      exact Or.inr ⟨nofun, w', rfl, ofOptions_perm order' distinct' ▸ read⟩

/-- Similar options in another order give the same settings over the same ones. -/
theorem withOverrides_similar (distinct : (o.map (·.1)).Nodup) (rearranged : Rearranged Options.Similar o o')
    (applied : c.withOverrides place o = .ok s) : c.withOverrides place' o' = .ok s := by
  obtain ⟨known, b, replaced, read⟩ := withOverrides_eq_ok_iff.mp applied
  have replaced : c.replaced place' (configOf o') = .ok b := replaced_similar distinct rearranged replaced
  obtain ⟨u, order, similar⟩ := rearranged
  have keys_perm : (o.map (·.1)).Perm (o'.map (·.1)) := Options.keys_similar similar ▸ order.map _
  have others : (o.filter (·.1 != configKey)).Perm (o'.filter (·.1 != configKey)) :=
    Options.filter_similar similar ▸ order.filter _
  have remaining : ((o.filter (·.1 != configKey)).map (·.1)).Nodup :=
    distinct.sublist (List.filter_sublist.map _)
  refine withOverrides_eq_ok_iff.mpr ⟨fun e member => ?_, b, replaced, ?_⟩
  · obtain ⟨e', inside, same⟩ := List.mem_map.mp (keys_perm.mem_iff.mpr (List.mem_map_of_mem member))
    exact same ▸ known e' inside
  · rw [ofOptions_override ((others.map _).nodup_iff.mp remaining)]
    rw [ofOptions_override remaining] at read
    simpa only [Options.get?_perm others remaining] using read

end Settings

namespace Decorator

variable {p : Pos} {f : Expr} {args : List Expr} {ks : List Keyword} {o : Options}

theorem quiet_of_splitLast? {α : Type} {p : α → Bool} {as : List α} (whole : splitLast? p as = none) :
    ∀ a ∈ as, p a = false := by
  induction as with
  | nil => exact List.forall_mem_nil _
  | cons a rest ih =>
    rw [splitLast?] at whole
    cases later : splitLast? p rest with
    | some parts =>
      rw [later] at whole
      cases whole
    | none =>
      rw [later] at whole
      refine List.forall_mem_cons.mpr ⟨Bool.eq_false_iff.mpr fun passes => ?_, ih later⟩
      rw [passes] at whole
      cases whole

/-- The options of a decorator with a call of the settings are those of the call under one key, and then the others. -/
theorem overrides_eq_ok_config {before after own : List Keyword} {q : Pos} {call : Expr} {positional : List Expr}
    (parts : call.configCall? = some (positional, own))
    (split : splitLast? Keyword.isConfigCall ks = some (before, .mk (some configKey) q call, after))
    (inner : (own.filterMap Keyword.name).Nodup)
    (names : (configKey :: (before ++ after).filterMap Keyword.name).Nodup) :
    (Decorator.mk p (.call f args ks)).overrides = .ok o ↔
      positional = [] ∧ args = [] ∧ ∃ config later : Options, List.Forall₂ Keyword.Spells own config ∧
        List.Forall₂ Keyword.Spells (before ++ after) later ∧ (configKey, config.mapping) :: later = o := by
  have put {config later : Options} (spelled : List.Forall₂ Keyword.Spells (before ++ after) later) :
      Options.override [(configKey, config.mapping)] later = (configKey, config.mapping) :: later := by
    refine Options.override_of_nodup ?_
    rw [Keyword.names_of_spells spelled] at names
    exact names
  have given : (Keyword.mk (some configKey) q call).value.configCall? = some (positional, own) := parts
  unfold overrides
  dsimp only
  rw [split]
  dsimp only
  rw [given, Option.getD_some]
  simp only [bind_eq_ok, readArguments_eq_ok inner, readArguments_eq_ok (List.nodup_cons.mp names).2]
  constructor
  · rintro ⟨config, ⟨none, settings⟩, later, ⟨none', spelled⟩, same⟩
    rw [put spelled] at same
    exact ⟨none, none', config, later, settings, spelled, Except.ok.inj same⟩
  · rintro ⟨none, none', config, later, settings, spelled, same⟩
    exact ⟨config, ⟨none, settings⟩, later, ⟨none', spelled⟩, by rw [put spelled, same]⟩

/-- The arguments of an activation decorator are read as they stand, or with the call of the settings in front. -/
theorem exists_overrides_eq_ok_iff (p : Pos) (f : Expr) (args : List Expr) (distinct : Keyword.Distinct ks) :
    ∃ read : List Keyword, ks.Perm read ∧ ∀ o, (Decorator.mk p (.call f args ks)).overrides = .ok o ↔
      args = [] ∧ List.Forall₂ Keyword.Yields read o := by
  cases split : splitLast? Keyword.isConfigCall ks with
  | none =>
    refine ⟨ks, .refl ks, fun o => ?_⟩
    rw [Keyword.yields_iff_spells (quiet_of_splitLast? split)]
    unfold overrides
    dsimp only
    rw [split]
    exact readArguments_eq_ok distinct.names
  | some parts =>
    obtain ⟨before, ⟨n, q, call⟩, after⟩ := parts
    obtain ⟨same, isCall⟩ := splitLast?_eq_some split
    obtain ⟨called, isSome⟩ := Bool.and_eq_true_iff.mp isCall
    obtain rfl : n = some configKey := beq_iff_eq.mp called
    obtain ⟨⟨positional, own⟩, parts⟩ : ∃ parts, call.configCall? = some parts :=
      Option.isSome_iff_exists.mp isSome
    have first : ks.Perm (.mk (some configKey) q call :: (before ++ after)) := same ▸ List.perm_middle
    have member : Keyword.mk (some configKey) q call ∈ ks := first.mem_iff.mpr List.mem_cons_self
    have names : (configKey :: (before ++ after).filterMap Keyword.name).Nodup :=
      (first.filterMap Keyword.name).nodup_iff.mp distinct.names
    have others : ∀ k ∈ before ++ after, k.isConfigCall = false := fun k inside =>
      Keyword.isConfigCall_of_name_ne fun named =>
        (List.nodup_cons.mp names).1 (List.mem_filterMap.mpr ⟨k, inside, named⟩)
    refine ⟨.mk (some configKey) q call :: (before ++ after), first, fun o => ?_⟩
    rw [overrides_eq_ok_config parts split (distinct.config _ member rfl _ _ parts) names,
      Keyword.yields_config_iff parts others, and_left_comm]

/-- What the arguments of an activation decorator give are its options, up to their order. -/
theorem overrides_eq_ok (distinct : Keyword.Distinct ks) :
    (∃ o', o.Perm o' ∧ (Decorator.mk p (.call f args ks)).overrides = .ok o') ↔
      args = [] ∧ ∃ o', o.Perm o' ∧ List.Forall₂ Keyword.Yields ks o' := by
  obtain ⟨read, order, given⟩ := exists_overrides_eq_ok_iff p f args distinct
  simp only [given]
  rw [exists_perm_forall₂_congr order, ← exists_and_left]
  exact exists_congr fun o' => and_left_comm

end Decorator

namespace Keyword

variable {k k' : Keyword} {e : Text × Value} {ks ks' : List Keyword} {o : Options}

theorem Moved.spells (moved : k.Moved k') (spells : k.Spells e) : k'.Spells e :=
  ⟨moved.1 ▸ spells.1, Expr.literal_of_unplaced moved.2 ▸ spells.2⟩

/-- Literals in another order spell the same options in another order. -/
theorem spells_rearranged (rearranged : Rearranged Moved ks ks') (spelled : List.Forall₂ Spells ks o) :
    ∃ o', o.Perm o' ∧ List.Forall₂ Spells ks' o' := by
  obtain ⟨ls, order, moved⟩ := rearranged
  obtain ⟨o', spelled', order'⟩ := List.perm_comp_forall₂ order.symm spelled
  refine ⟨o', order'.symm, ?_⟩
  clear order order' spelled
  induction moved generalizing o' with
  | nil => exact spelled'
  | cons here _ ih =>
    cases spelled' with
    | cons spells rest => exact .cons (here.spells spells) (ih _ rest)

theorem moved_of_mapPlaces
    (same : mapPlacesKeywords (fun _ => .start) ks = mapPlacesKeywords (fun _ => .start) ks') :
    List.Forall₂ Moved ks ks' := by
  induction ks generalizing ks' with
  | nil =>
    cases ks' with
    | nil => exact .nil
    | cons k' rest' =>
      obtain ⟨n', p', v'⟩ := k'
      cases same
  | cons k rest ih =>
    obtain ⟨n, p, v⟩ := k
    cases ks' with
    | nil => cases same
    | cons k' rest' =>
      obtain ⟨n', p', v'⟩ := k'
      injection same with here others
      injection here with name _ value
      exact .cons ⟨name, value⟩ (ih others)

/-- A call of the settings in another order or at another place. -/
theorem Reordered.parts {args : List Expr} {own : List Keyword} (reordered : k.Reordered k')
    (parts : k.value.configCall? = some (args, own)) :
    ∃ args' own', k'.value.configCall? = some (args', own') ∧ args.map Expr.unplaced = args'.map Expr.unplaced ∧
      Rearranged Moved own own' := by
  cases reordered with
  | moved same =>
    have unplaced := congrArg Expr.configCall? same.2
    rw [Expr.configCall?_unplaced, Expr.configCall?_unplaced, parts] at unplaced
    obtain ⟨⟨args', own'⟩, parts', same⟩ := Option.map_eq_some_iff.mp unplaced.symm
    obtain ⟨positional, keywords⟩ := Prod.mk.inj same
    rw [Expr.mapPlacesAll_eq_map, Expr.mapPlacesAll_eq_map] at positional
    exact ⟨args', own', parts', positional.symm, own, .refl own, moved_of_mapPlaces keywords.symm⟩
  | @config p p' g g' args' args'' own' own'' named callee positional order =>
    have named' : g'.lastName? = some configName := by
      rw [← Expr.lastName?_unplaced, ← callee, Expr.lastName?_unplaced, named]
    cases (Expr.configCall?_call named args' own').symm.trans parts
    exact ⟨args'', own'', Expr.configCall?_call named' args'' own'', positional, order⟩

/-- What a reordered argument gives is what it gave before, up to the order of options under `config`. -/
theorem Reordered.yields (reordered : k.Reordered k') (yields : k.Yields e)
    (inner : k.name = some configKey → ∀ args own, k.value.configCall? = some (args, own) →
      (own.filterMap Keyword.name).Nodup) :
    ∃ e', Options.Similar e e' ∧ k'.Yields e' := by
  cases yields with
  | literal spells =>
    cases reordered with
    | moved same => exact ⟨e, .refl, .literal (same.spells spells)⟩
    | config named callee positional order =>
      cases (Expr.configCall?_call named _ _).symm.trans (Expr.configCall?_of_literal spells.2)
  | @config p call own o parts spelled =>
    obtain ⟨args', own', parts', positional, order⟩ := reordered.parts parts
    obtain rfl : args' = [] := List.map_eq_nil_iff.mp positional.symm
    obtain ⟨o', order', spelled'⟩ := spells_rearranged order spelled
    have distinct : (o.map (·.1)).Nodup := names_of_spells spelled ▸ inner rfl _ _ parts
    obtain ⟨n', p', call'⟩ := k'
    obtain rfl : some configKey = n' := reordered.name
    exact ⟨_, .config order' distinct, .config parts' spelled'⟩

/-- The arguments of an activation decorator in another order give similar options in another order. -/
theorem yields_rearranged (rearranged : Rearranged Reordered ks ks') (distinct : Distinct ks)
    (given : List.Forall₂ Yields ks o) : ∃ o', Rearranged Options.Similar o o' ∧ List.Forall₂ Yields ks' o' := by
  obtain ⟨ls, order, reordered⟩ := rearranged
  obtain ⟨u, given', order'⟩ := List.perm_comp_forall₂ order.symm given
  have inner : ∀ k ∈ ls, k.name = some configKey → ∀ args own, k.value.configCall? = some (args, own) →
      (own.filterMap Keyword.name).Nodup := fun k member => distinct.config k (order.mem_iff.mpr member)
  have later : ∃ o', List.Forall₂ Options.Similar u o' ∧ List.Forall₂ Yields ks' o' := by
    clear order order' given
    induction reordered generalizing u with
    | nil =>
      cases given'
      exact ⟨[], .nil, .nil⟩
    | cons here _ ih =>
      obtain ⟨first, others⟩ := List.forall_mem_cons.mp inner
      cases given' with
      | cons yields rest =>
        obtain ⟨e', similar, yields'⟩ := here.yields yields first
        obtain ⟨o', similar', rest'⟩ := ih _ rest others
        exact ⟨e' :: o', .cons similar similar', .cons yields' rest'⟩
  obtain ⟨o', similar, given''⟩ := later
  exact ⟨o', ⟨u, order'.symm, similar⟩, given''⟩

theorem names_rearranged {R : Keyword → Keyword → Prop} (name : ∀ k k', R k k' → k.name = k'.name)
    (rearranged : Rearranged R ks ks') : (ks.filterMap Keyword.name).Perm (ks'.filterMap Keyword.name) := by
  obtain ⟨ls, order, related⟩ := rearranged
  have same : ls.filterMap Keyword.name = ks'.filterMap Keyword.name := by
    clear order
    induction related with
    | nil => rfl
    | cons here _ ih => rw [List.filterMap_cons, List.filterMap_cons, name _ _ here, ih]
  exact same ▸ order.filterMap _

/-- Arguments in another order have distinct names as well. -/
theorem Distinct.rearranged (distinct : Distinct ks) (rearranged : Rearranged Reordered ks ks') : Distinct ks' where
  names := (names_rearranged (fun _ _ => Reordered.name) rearranged).nodup_iff.mp distinct.names
  config k' member named args' own' parts' := by
    obtain ⟨k, among, here⟩ := rearranged.exists_of_mem member
    obtain ⟨args, own, parts, _, back⟩ := here.symm.parts parts'
    have own_distinct := distinct.config k among (here.name.trans named) args own parts
    exact (names_rearranged (fun _ _ moved => moved.1) back).nodup_iff.mpr own_distinct

end Keyword

namespace Decorator

/-- Two calls of activation decorators that differ in the order of their arguments by name, and in the order of those
of a call of the settings among them, wherever they stand. -/
inductive Permuted : Decorator → Decorator → Prop
  | call {p p' : Pos} {f f' : Expr} {args args' : List Expr} {ks ks' : List Keyword}
    (callee : f.unplaced = f'.unplaced) (positional : args.map Expr.unplaced = args'.map Expr.unplaced)
    (order : Rearranged Keyword.Reordered ks ks') : Permuted ⟨p, .call f args ks⟩ ⟨p', .call f' args' ks'⟩

/-- No two arguments of a decorator have the same name, and neither have those of a call of the settings. -/
def Distinct (d : Decorator) : Prop :=
  ∀ f args ks, d.expr = .call f args ks → Keyword.Distinct ks

variable {d d' : Decorator} {base s : Settings}

theorem Permuted.symm (permuted : d.Permuted d') : d'.Permuted d := by
  cases permuted with
  | call callee positional order =>
    exact .call callee.symm positional.symm (order.symm fun _ _ => Keyword.Reordered.symm)

theorem Permuted.distinct (permuted : d.Permuted d') (distinct : d.Distinct) : d'.Distinct := by
  cases permuted with
  | call callee positional order =>
    rintro f args ks same
    cases same
    exact (distinct _ _ _ rfl).rearranged order

theorem Permuted.settings_eq_ok (permuted : d.Permuted d') (distinct : d.Distinct)
    (made : d.settings base = .ok s) : d'.settings base = .ok s := by
  cases permuted with
  | @call p p' f f' args args' ks ks' callee positional order =>
    have distinct : Keyword.Distinct ks := distinct _ _ _ rfl
    obtain ⟨o, read, applied⟩ := bind_eq_ok.mp made
    obtain ⟨none, u, order', given⟩ := (overrides_eq_ok distinct).mp ⟨o, .refl o, read⟩
    obtain ⟨w, similar, given'⟩ := Keyword.yields_rearranged order distinct given
    have none' : args' = [] := by
      rw [none] at positional
      exact List.map_eq_nil_iff.mp positional.symm
    obtain ⟨o', order'', read'⟩ :=
      (overrides_eq_ok (p := p') (f := f') (distinct.rearranged order)).mpr ⟨none', w, .refl w, given'⟩
    have keys : (o.map (·.1)).Nodup :=
      (order'.map _).nodup_iff.mpr (Keyword.names_of_yields given ▸ distinct.names)
    exact bind_eq_ok.mpr ⟨o', read',
      Settings.withOverrides_similar keys ((similar.perm_left order').perm_right order'') applied⟩

/-- Permuting the arguments of an activation decorator, and those of a call of the settings among them, changes neither
whether there are settings nor which they are. -/
theorem settings_permuted (permuted : d.Permuted d') (distinct : d.Distinct) (base : Settings) :
    (d.settings base).toOption = (d'.settings base).toOption := by
  have made (x : Except ArgumentFault Settings) (s : Settings) : x.toOption = some s ↔ x = .ok s := by
    cases x <;> simp [Except.toOption]
  refine Option.ext fun s => ?_
  rw [made, made]
  exact ⟨permuted.settings_eq_ok distinct, permuted.symm.settings_eq_ok (permuted.distinct distinct)⟩

end Decorator

namespace Samples

/-- The settings made in a call, in one order. -/
def madeConfig : Keyword :=
  .mk (some configKey) .start (.call (.name configName) []
    [.mk (some Setting.factoryName.key) .start (.constant (.str "make" false)),
      .mk (some Setting.collectMissing.key) .start (.constant (.bool true))])

/-- The same settings in the other order, at another place. -/
def madeConfigBack : Keyword :=
  .mk (some configKey) ⟨2, 4⟩ (.call (.name configName) []
    [.mk (some Setting.collectMissing.key) ⟨2, 30⟩ (.constant (.bool true)),
      .mk (some Setting.factoryName.key) ⟨2, 48⟩ (.constant (.str "make" false))])

/-- A name for the finalizer. -/
def finalizerArgument : Keyword :=
  .mk (some Setting.finalizerName.key) .start (.constant (.str "done" false))

/-- A decorator with all of them. -/
def forth : Decorator :=
  ⟨.start, .call (.name "derive_builder") [] [madeConfig, finalizerArgument]⟩

/-- The same decorator with its arguments in the other order. -/
def back : Decorator :=
  ⟨⟨7, 1⟩, .call (.name "derive_builder") [] [finalizerArgument, madeConfigBack]⟩

end Samples

open Samples in
theorem Decorator.settings_permuted_config : forth.Permuted back ∧ forth.Distinct ∧
    (forth.settings .default).toOption = (back.settings .default).toOption ∧
    (forth.settings .default).toOption.isSome = true := by
  have permuted : forth.Permuted back := by
    refine .call rfl rfl ⟨[finalizerArgument, madeConfig], List.Perm.swap _ _ _, ?_⟩
    refine .cons (.moved ⟨rfl, rfl⟩) (.cons (.config rfl rfl rfl ?_) .nil)
    exact ⟨_, List.Perm.swap _ _ _, .cons ⟨rfl, rfl⟩ (.cons ⟨rfl, rfl⟩ .nil)⟩
  have distinct : forth.Distinct := by
    rintro f args ks same
    cases same
    refine ⟨by decide +kernel, ?_⟩
    rintro k member _ args own parts
    rcases List.mem_pair.mp member with rfl | rfl
    · cases parts
      decide +kernel
    · cases parts
  exact ⟨permuted, distinct, settings_permuted permuted distinct .default, rfl⟩

end FluentRecords
