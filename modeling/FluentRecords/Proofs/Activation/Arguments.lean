import FluentRecords.Proofs.Activation.Literals
import FluentRecords.Proofs.Activation.Settings
import FluentRecords.Proofs.Splice.Residue

/-!
Arguments that cannot be used. Most of them are reported at the place of the decorator or of one of its keyword
arguments; what is not reported is a literal that breaks down and a value under `config` that holds no settings by
name.
-/

namespace FluentRecords

namespace Keyword

/-- A keyword argument that is read. -/
def Reads (k : Keyword) : Prop :=
  ∃ o, k.Spells o

variable {k : Keyword} {owner : Text}

theorem literal_eq_ok {o : Text × Value} : k.literal owner = .ok o ↔ k.Spells o := by
  rw [literal, Spells]
  cases k.name with
  | none => simp
  | some n =>
    dsimp only
    cases k.value.literal with
    | ok v => simp [Prod.ext_iff]
    | error f => cases f <;> simp

/-- A keyword argument ends the reading without a report only as its literal does. -/
theorem literal_eq_breakdown {b : Breakdown} :
    k.literal owner = .error (.breakdown b) ↔ k.name.isSome = true ∧ k.value.Breaks b := by
  rw [literal, ← Expr.literal_eq_breakdown]
  cases k.name with
  | none => simp
  | some n =>
    dsimp only
    cases k.value.literal with
    | ok v => simp
    | error f => cases f <;> simp

/-- What is reported about a keyword argument is found at its place. -/
theorem literal_place {f : RequestFault} (failed : k.literal owner = .error (.request f)) : f.place = k.place := by
  rw [literal] at failed
  split at failed
  · cases failed
    rfl
  · split at failed
    · cases failed
    · cases failed
      rfl
    · cases failed

end Keyword

/-- The first keyword argument that is not read decides. -/
theorem readKeywords_eq_error {owner : Text} {ks : List Keyword} {done : Options} {c : ArgumentFault} :
    readKeywords owner done ks = .error c ↔
      ∃ before k after, ks = before ++ k :: after ∧ (∀ x ∈ before, x.Reads) ∧ k.literal owner = .error c := by
  constructor
  · intro failed
    induction ks generalizing done with
    | nil => cases failed
    | cons k rest ih =>
      rcases bind_eq_error.mp failed with first | ⟨o, here, later⟩
      · exact ⟨[], k, rest, rfl, List.forall_mem_nil _, first⟩
      · obtain ⟨before, k', after, rfl, read, failed⟩ := ih later
        have spells : k.Reads := ⟨o, Keyword.literal_eq_ok.mp here⟩
        exact ⟨k :: before, k', after, rfl, List.forall_mem_cons.mpr ⟨spells, read⟩, failed⟩
  · rintro ⟨before, k, after, rfl, read, failed⟩
    induction before generalizing done with
    | nil => exact bind_eq_error.mpr (Or.inl failed)
    | cons first rest ih =>
      obtain ⟨⟨o, spells⟩, others⟩ := List.forall_mem_cons.mp read
      exact bind_eq_error.mpr (Or.inr ⟨o, Keyword.literal_eq_ok.mpr spells, ih others⟩)

/-- The arguments of a call, with the owner that reports name and the place of the call. -/
structure ArgumentList where
  owner : Text
  place : Pos
  positional : List Expr
  keywords : List Keyword

namespace ArgumentList

/-- The options that the arguments give. -/
def options (l : ArgumentList) : Except ArgumentFault Options :=
  readArguments l.owner l.place l.positional l.keywords

/-- How arguments break down: none is positional, and a literal does after others that are read. -/
def Breaks (l : ArgumentList) (b : Breakdown) : Prop :=
  l.positional = [] ∧ ∃ before k after, l.keywords = before ++ k :: after ∧ (∀ x ∈ before, x.Reads) ∧
    k.name.isSome = true ∧ k.value.Breaks b

variable {l : ArgumentList}

theorem options_eq_breakdown {b : Breakdown} : l.options = .error (.breakdown b) ↔ l.Breaks b := by
  rw [options, readArguments, Breaks]
  cases l.positional with
  | nil => simp [readKeywords_eq_error, Keyword.literal_eq_breakdown]
  | cons e es => simp

theorem options_place {f : RequestFault} (failed : l.options = .error (.request f)) :
    f.place = l.place ∨ ∃ k ∈ l.keywords, f.place = k.place := by
  rw [options, readArguments] at failed
  split at failed
  · obtain ⟨before, k, after, same, _, failed⟩ := readKeywords_eq_error.mp failed
    have member : k ∈ l.keywords := by
      rw [same]
      exact List.mem_append_right before List.mem_cons_self
    exact Or.inr ⟨k, member, Keyword.literal_place failed⟩
  · cases failed
    exact Or.inl rfl

end ArgumentList

theorem splitLast?_eq_some {α : Type} {p : α → Bool} {as before after : List α} {a : α}
    (split : splitLast? p as = some (before, a, after)) : as = before ++ a :: after ∧ p a = true := by
  induction as generalizing before with
  | nil => cases split
  | cons first rest ih =>
    rw [splitLast?] at split
    cases later : splitLast? p rest with
    | some parts =>
      rw [later] at split
      cases split
      obtain ⟨same, passes⟩ := ih later
      exact ⟨congrArg (first :: ·) same, passes⟩
    | none =>
      rw [later] at split
      dsimp only at split
      split at split
      · rename_i passes
        cases split
        exact ⟨rfl, passes⟩
      · cases split

namespace Decorator

/-- The argument lists of a decorator in the order in which they are read: that of a call of the settings, then its
own without that call. -/
def argumentLists (d : Decorator) : List ArgumentList :=
  match d.expr with
  | .call _ args keywords =>
    match splitLast? Keyword.isConfigCall keywords with
    | some (before, k, after) =>
      let parts := (k.value.configCall?).getD ([], [])
      [⟨configName, k.place, parts.1, parts.2⟩, ⟨decoratorName, d.place, args, before ++ after⟩]
    | none => [⟨decoratorName, d.place, args, keywords⟩]
  | _ => []

/-- The places of a decorator, of its keyword arguments and of those of a call of the settings. -/
def places (d : Decorator) : List Pos :=
  d.place :: d.argumentLists.flatMap fun l => l.place :: l.keywords.map Keyword.place

/-- How the arguments of a decorator break down: some of them do after others that are read, or all are read under
known names and the value under `config` holds no settings by name. -/
inductive Breaks (d : Decorator) : Breakdown → Prop
  | literal {before after : List ArgumentList} {l : ArgumentList} {b : Breakdown}
      (lists : d.argumentLists = before ++ l :: after) (read : ∀ x ∈ before, ∃ o, x.options = .ok o)
      (breaks : l.Breaks b) : Breaks d b
  | notMapping {o : Options} (read : d.overrides = .ok o) (known : ∀ e ∈ o, e.1 = configKey ∨ e.1 ∈ Settings.keys)
      (given : Settings.configOf o ≠ .none) (other : ∀ es, Settings.configOf o ≠ .dict es) :
      Breaks d (.notMapping (Settings.configOf o).kindName)
  | keysNotText {o : Options} {es : List (Value × Value)} (read : d.overrides = .ok o)
      (known : ∀ e ∈ o, e.1 = configKey ∨ e.1 ∈ Settings.keys) (mapping : Settings.configOf o = .dict es)
      (key : ∃ e ∈ es, ∀ t, e.1 ≠ .str t) : Breaks d .keysNotText

variable {d : Decorator}

/-- The first argument list that is not read decides. -/
theorem overrides_eq_error {c : ArgumentFault} : d.overrides = .error c ↔
    ∃ before l after, d.argumentLists = before ++ l :: after ∧ (∀ x ∈ before, ∃ o, x.options = .ok o) ∧
      l.options = .error c := by
  rw [← mapM_eq_error]
  obtain ⟨place, e⟩ := d
  cases e with
  | call f args keywords =>
    unfold overrides argumentLists
    dsimp only
    cases splitLast? Keyword.isConfigCall keywords with
    | none =>
      rw [List.mapM_cons, List.mapM_nil, bind_eq_error]
      exact (or_iff_left fun ⟨_, _, last⟩ => by cases last).symm
    | some parts =>
      dsimp only
      simp only [List.mapM_cons, List.mapM_nil, bind_eq_error, ArgumentList.options]
      constructor
      · rintro (first | ⟨o, read, second | ⟨_, _, last⟩⟩)
        · exact Or.inl first
        · exact Or.inr ⟨o, read, Or.inl (Or.inl second)⟩
        · cases last
      · rintro (first | ⟨o, read, (second | ⟨_, _, _ | ⟨_, _, last⟩⟩) | ⟨_, _, last⟩⟩)
        · exact Or.inl first
        · exact Or.inr ⟨o, read, Or.inl second⟩
        · contradiction
        · cases last
        · cases last
  | _ => exact iff_of_false (fun failed => by cases failed) fun failed => by cases failed

theorem overrides_place {f : RequestFault} (failed : d.overrides = .error (.request f)) : f.place ∈ d.places := by
  obtain ⟨before, l, after, same, _, failed⟩ := overrides_eq_error.mp failed
  have member : l ∈ d.argumentLists := by
    rw [same]
    exact List.mem_append_right before List.mem_cons_self
  refine List.mem_cons_of_mem _ (List.mem_flatMap.mpr ⟨l, member, ?_⟩)
  rcases ArgumentList.options_place failed with own | ⟨k, inside, own⟩
  · exact own ▸ List.mem_cons_self
  · exact List.mem_cons_of_mem _ (own ▸ List.mem_map_of_mem inside)

end Decorator

namespace Options

theorem ofEntries?_eq_none {es : List (Value × Value)} :
    ofEntries? es = none ↔ ∃ e ∈ es, ∀ t, e.1 ≠ .str t := by
  induction es with
  | nil => exact iff_of_false (fun none => by cases none) fun ⟨_, member, _⟩ => by cases member
  | cons e rest ih =>
    obtain ⟨key, v⟩ := e
    rw [List.exists_mem_cons_iff]
    cases key with
    | str t =>
      have text : ¬∀ t', Value.str t ≠ .str t' := fun other => other t rfl
      rw [ofEntries?, Option.map_eq_none_iff, ih]
      exact (or_iff_right text).symm
    | _ => exact iff_of_true rfl (Or.inl fun t same => by cases same)

/-- A value that is no mapping of options by name. -/
theorem ofMapping_eq_error {v : Value} {b : Breakdown} : ofMapping v = .error b ↔
    (∃ es, v = .dict es ∧ (∃ e ∈ es, ∀ t, e.1 ≠ .str t) ∧ b = .keysNotText) ∨
      (∀ es, v ≠ .dict es) ∧ b = .notMapping v.kindName := by
  cases v with
  | dict es =>
    rw [ofMapping]
    have mapping : ¬∀ es', Value.dict es ≠ .dict es' := fun other => other es rfl
    cases read : ofEntries? es with
    | none =>
      have keys := ofEntries?_eq_none.mp read
      simp only [Value.dict.injEq, exists_eq_left', keys, true_and, mapping, false_and, or_false, Except.error.injEq]
      exact eq_comm
    | some o =>
      have keys : ¬∃ e ∈ es, ∀ t, e.1 ≠ .str t := fun none => by
        rw [ofEntries?_eq_none.mpr none] at read
        cases read
      simp only [Value.dict.injEq, exists_eq_left', keys, false_and, mapping, or_self]
      exact iff_of_false (fun failed => by cases failed) id
  | _ => simp [ofMapping, eq_comm]

end Options

namespace Settings

variable {base : Settings} {place : Pos} {o : Options}

theorem ofOptionsAt_eq_error {c : ArgumentFault} (failed : ofOptionsAt place o = .error c) :
    ∃ faults, c = .request ⟨.invalid faults, place⟩ := by
  obtain ⟨faults, _, same⟩ := mapError_eq_error.mp failed
  exact ⟨faults, same.symm⟩

theorem replaced_eq_breakdown {v : Value} {b : Breakdown} :
    base.replaced place v = .error (.breakdown b) ↔ v ≠ .none ∧ Options.ofMapping v = .error b := by
  have other : ∀ w : Value, ((Options.ofMapping w).mapError ArgumentFault.breakdown >>= ofOptionsAt place) =
      .error (.breakdown b) ↔ Options.ofMapping w = .error b := by
    intro w
    rw [bind_eq_error, mapError_eq_error]
    constructor
    · rintro (⟨first, failed, same⟩ | ⟨o, _, failed⟩)
      · cases same
        exact failed
      · obtain ⟨_, same⟩ := ofOptionsAt_eq_error failed
        cases same
    · exact fun failed => Or.inl ⟨b, failed, rfl⟩
  cases v with
  | none => exact iff_of_false (fun failed => by cases failed) fun given => given.1 rfl
  | _ => exact (other _).trans (and_iff_right fun none => by cases none).symm

theorem replaced_place {v : Value} {f : RequestFault} (failed : base.replaced place v = .error (.request f)) :
    f.place = place := by
  have other : ∀ w : Value, ((Options.ofMapping w).mapError ArgumentFault.breakdown >>= ofOptionsAt place) =
      .error (.request f) → f.place = place := by
    intro w failed
    rcases bind_eq_error.mp failed with first | ⟨o, _, failed⟩
    · obtain ⟨_, _, same⟩ := mapError_eq_error.mp first
      cases same
    · obtain ⟨_, same⟩ := ofOptionsAt_eq_error failed
      cases same
      rfl
  cases v with
  | none => cases failed
  | _ => exact other _ failed

/-- No key of options is unknown exactly if each of them is that of the settings in force or of a setting. -/
theorem unknown_isEmpty : (((o.filter (·.1 != configKey)).map (·.1)).filter fun k => !keys.elem k).isEmpty = true ↔
    ∀ e ∈ o, e.1 = configKey ∨ e.1 ∈ keys := by
  rw [List.isEmpty_iff, List.filter_eq_nil_iff]
  simp only [List.forall_mem_map, List.mem_filter, bne_iff_ne, Bool.not_eq_true', Bool.not_eq_false, List.elem_iff,
    and_imp]
  exact forall₂_congr fun e _ => or_iff_not_imp_left.symm

/-- Options break down exactly if their keys are known and the value under `config` holds no settings by name. -/
theorem withOverrides_eq_breakdown {b : Breakdown} : base.withOverrides place o = .error (.breakdown b) ↔
    (∀ e ∈ o, e.1 = configKey ∨ e.1 ∈ keys) ∧ configOf o ≠ .none ∧ Options.ofMapping (configOf o) = .error b := by
  cases o with
  | nil => exact iff_of_false (fun failed => by cases failed) fun given => given.2.1 rfl
  | cons e rest =>
    rw [← unknown_isEmpty, ← @replaced_eq_breakdown base place]
    unfold withOverrides
    rw [if_neg (by exact Bool.false_ne_true)]
    dsimp only
    split
    · rename_i known
      rw [bind_eq_error]
      constructor
      · rintro (failed | ⟨s, _, failed⟩)
        · exact ⟨known, failed⟩
        · obtain ⟨_, same⟩ := ofOptionsAt_eq_error failed
          cases same
      · exact fun failed => Or.inl failed.2
    · rename_i unknown
      exact iff_of_false (fun failed => by cases failed) fun failed => unknown failed.1

theorem withOverrides_place {f : RequestFault} (failed : base.withOverrides place o = .error (.request f)) :
    f.place = place := by
  unfold withOverrides at failed
  split at failed
  · cases failed
  · dsimp only at failed
    split at failed
    · rcases bind_eq_error.mp failed with first | ⟨s, _, failed⟩
      · exact replaced_place first
      · obtain ⟨_, same⟩ := ofOptionsAt_eq_error failed
        cases same
        rfl
    · cases failed
      rfl

end Settings

namespace Decorator

variable {d : Decorator} {settings : Settings}

/-- Arguments break down exactly in the ways that are known. -/
theorem settings_eq_breakdown {b : Breakdown} : d.settings settings = .error (.breakdown b) ↔ d.Breaks b := by
  rw [Decorator.settings, bind_eq_error]
  constructor
  · rintro (failed | ⟨o, read, failed⟩)
    · obtain ⟨before, l, after, lists, read, failed⟩ := overrides_eq_error.mp failed
      exact .literal lists read (ArgumentList.options_eq_breakdown.mp failed)
    · obtain ⟨known, given, failed⟩ := Settings.withOverrides_eq_breakdown.mp failed
      rcases Options.ofMapping_eq_error.mp failed with ⟨es, mapping, key, rfl⟩ | ⟨other, rfl⟩
      · exact .keysNotText read known mapping key
      · exact .notMapping read known given other
  · rintro (⟨lists, read, breaks⟩ | ⟨read, known, given, other⟩ | ⟨read, known, mapping, key⟩)
    · exact Or.inl (overrides_eq_error.mpr ⟨_, _, _, lists, read, ArgumentList.options_eq_breakdown.mpr breaks⟩)
    · have failed := Options.ofMapping_eq_error.mpr (Or.inr ⟨other, rfl⟩)
      exact Or.inr ⟨_, read, Settings.withOverrides_eq_breakdown.mpr ⟨known, given, failed⟩⟩
    · have failed := Options.ofMapping_eq_error.mpr (Or.inl ⟨_, mapping, key, rfl⟩)
      have given : Settings.configOf _ ≠ .none := fun none => by
        rw [none] at mapping
        cases mapping
      exact Or.inr ⟨_, read, Settings.withOverrides_eq_breakdown.mpr ⟨known, given, failed⟩⟩

/-- What is reported about arguments is found at the decorator or at one of its keyword arguments. -/
theorem settings_place {f : RequestFault} (failed : d.settings settings = .error (.request f)) :
    f.place ∈ d.places := by
  rcases bind_eq_error.mp failed with first | ⟨o, _, failed⟩
  · exact overrides_place first
  · rw [Settings.withOverrides_place failed]
    exact List.mem_cons_self

end Decorator

namespace Request

variable {settings : Settings} {r : Request}

/-- A decorator that cannot be used is reported at its place, unless it breaks down. The arguments themselves decide
that, and nothing else ends a request without a report but a declaration that has no text. -/
theorem expand_reports (settings : Settings) (r : Request) :
    (∀ b, r.decorator.settings settings = .error (.breakdown b) ↔ r.decorator.Breaks b) ∧
      (∀ f, r.decorator.settings settings = .error (.request f) → f.place ∈ r.decorator.places ∧
        (r.topLevel = true →
          r.expand settings = .ok ⟨some r.name, none, [Diagnostic.errorAt f.place f.cause.message]⟩)) ∧
      ∀ b, r.expand settings = .error b ↔ r.topLevel = true ∧
        (r.decorator.Breaks b ∨ ∃ s f, r.decorator.settings settings = .ok s ∧
          Expansion.expand s (.stmt r.stmt) = .error f ∧ b = .unprintable f) := by
  refine ⟨fun b => Decorator.settings_eq_breakdown, fun f failed => ⟨Decorator.settings_place failed, ?_⟩, ?_⟩
  · intro top
    rw [expand_eq, if_pos top, failed]
    rfl
  · intro b
    rw [expand_eq]
    by_cases top : r.topLevel = true
    · rw [if_pos top, and_iff_right top, ← @Decorator.settings_eq_breakdown r.decorator settings]
      cases made : r.decorator.settings settings with
      | ok s =>
        dsimp only
        rw [Rendering.orBreakdown, mapError_eq_error]
        constructor
        · rintro ⟨f, failed, same⟩
          exact Or.inr ⟨s, f, rfl, failed, same.symm⟩
        · rintro (broken | ⟨_, f, same, failed, rfl⟩)
          · cases broken
          · cases same
            exact ⟨f, failed, rfl⟩
      | error f =>
        dsimp only
        cases f with
        | request f =>
          refine iff_of_false (fun failed => by cases failed) ?_
          rintro (broken | ⟨_, _, same, _⟩)
          · cases broken
          · cases same
        | breakdown first =>
          constructor
          · intro failed
            cases failed
            exact Or.inl rfl
          · rintro (broken | ⟨_, _, same, _⟩)
            · cases broken
              rfl
            · cases same
    · rw [if_neg top]
      exact iff_of_false (fun failed => by cases failed) fun failed => top failed.1

end Request

/-- The request of the record in a module that has one, under a decorator. -/
def Request.decorated (e : Expr) : Request where
  stmt := .classDef .start "P" [] [] [⟨.start, e⟩]
    [.simple .start (.annotated (.name "x") .start true (.name "int") none)]
  name := "P"
  decorator := ⟨.start, e⟩
  topLevel := true

theorem Module.requests_decorated {activation : Text} {e : Expr} (activates : e.isActivation activation = true) :
    (Module.decorated [e]).requests activation = [Request.decorated e] := by
  have requested : (Module.decorated [e]).body.flatMap (Request.ofTopLevel activation) = [Request.decorated e] := by
    simp [decorated, Request.ofTopLevel, Request.ofStmt?, Stmt.declaredName?, Stmt.decorators, Stmt.within,
      stmtsWithin, activates, Request.decorated]
  rw [requests, requested, List.mergeSort_singleton]

theorem Request.expand_reports_positional :
    (Request.decorated (.call (.name "derive_builder") [.constant (.int 1)] [])).expand .default =
      .ok ⟨some "P", none, [Diagnostic.errorAt .start "the activation decorator takes keyword arguments only"]⟩ :=
  ((expand_reports .default (.decorated (.call (.name "derive_builder") [.constant (.int 1)] []))).2.1
    ⟨.positional decoratorName, .start⟩ rfl).2 rfl

/-- A number under `config` and a list in a set end the expansion of a module's only request without a report. -/
theorem breaks_down_number_and_member :
    (∃ r, (Module.decorated [.call (.name "derive_builder") []
        [.mk (some "config") .start (.constant (.int 5))]]).requests Settings.default.activationName.val = [r] ∧
      r.expand .default = .error (.notMapping "int")) ∧
    ∃ r, (Module.decorated [.call (.name "derive_builder") []
        [.mk (some "collect_missing") .start (.set [.list [.constant (.int 1)]])]]).requests
          Settings.default.activationName.val = [r] ∧
      r.expand .default = .error (.unhashable "list") :=
  ⟨⟨_, Module.requests_decorated rfl, rfl⟩, ⟨_, Module.requests_decorated rfl, rfl⟩⟩

end FluentRecords
