import FluentRecords.Diagnostic
import FluentRecords.Proofs.Record.Acceptance

/-!
Rejected classes. An enumeration is rejected as such; else the first annotation that breaks a rule is blamed,
with the first rule that it breaks, then the first field called like the slot of another one, and last the lack
of fields. The blame is reported at its place unless it is for a target that has no text.
-/

namespace FluentRecords

namespace FieldDecl

/-- An annotation declares a field of a name. -/
def Declares (d : FieldDecl) (n : Text) : Prop :=
  d.target = .name n ∧ ¬ d.type.Marks

/-- The rules for an annotation behind others, each with the cause that is given where it is the first rule
that is broken. For a name that is declared again, this is the line in which the name stood first. -/
inductive Breaks (record : Text) (reserved : List Text) (before : List FieldDecl) (d : FieldDecl) :
    ShapeCause → Prop
  | unnamed (other : ∀ n, d.target ≠ .name n) : Breaks record reserved before d (.unnamedField record d.target)
  | hidden {n} (declares : d.Declares n) (starts : Text.startsWith "__" n = true) :
    Breaks record reserved before d (.hiddenField n)
  | reserved {n} (declares : d.Declares n) (visible : Text.startsWith "__" n = false) (taken : n ∈ reserved) :
    Breaks record reserved before d (.reservedField n)
  | repeated {n earlier first between} (declares : d.Declares n) (visible : Text.startsWith "__" n = false)
    (free : n ∉ reserved) (behind : before = earlier ++ first :: between) (declared : first.Declares n)
    (fresh : ∀ e ∈ earlier, ¬ e.Declares n) :
    Breaks record reserved before d (.repeatedField record n first.targetAt.line)

/-- Behind some annotations, none of several others breaks a rule. -/
def UnbrokenBehind (record : Text) (reserved : List Text) (before ds : List FieldDecl) : Prop :=
  ∀ clean d after, ds = clean ++ d :: after → ∀ cause, ¬ d.Breaks record reserved (before ++ clean) cause

end FieldDecl

namespace ClassDecl

/-- No annotation of a list breaks a rule behind those in front of it. -/
abbrev Unbroken (c : ClassDecl) (reserved : List Text) (ds : List FieldDecl) : Prop :=
  FieldDecl.UnbrokenBehind c.name reserved [] ds

/-- What a class that is rejected is blamed for. -/
inductive Blames (c : ClassDecl) (reserved : List Text) : ShapeFault → Prop
  | enumeration (derives : c.DerivesEnum) : Blames c reserved ⟨.enumeration c.name, c.place⟩
  | broken {before d after cause} (noEnum : ¬ c.DerivesEnum) (split : c.annotations = before ++ d :: after)
    (clean : c.Unbroken reserved before) (breaks : d.Breaks c.name reserved before cause) :
    Blames c reserved ⟨cause, d.targetAt⟩
  | storage {before d after n} (noEnum : ¬ c.DerivesEnum) (clean : c.Unbroken reserved c.annotations)
    (split : c.annotations = before ++ d :: after) (slot : d.Declares (95 :: n)) (field : n ∈ c.recordNames)
    (first : ∀ e ∈ before, ∀ k, e.Declares (95 :: k) → k ∉ c.recordNames) :
    Blames c reserved ⟨.storageClash c.name (95 :: n), d.targetAt⟩
  | fieldless (noEnum : ¬ c.DerivesEnum) (clean : c.Unbroken reserved c.annotations) (none : c.recordDecls = []) :
    Blames c reserved ⟨.noFields c.name, c.place⟩

end ClassDecl

/-- A cause can be told unless it shows a target that has no text. -/
def ShapeCause.Tellable (cause : ShapeCause) : Prop :=
  ∀ record target, cause = .unnamedField record target → ∃ t, target.text = .ok t

namespace FieldDecl

variable {record : Text} {reserved : List Text} {before : List FieldDecl} {d : FieldDecl} {cause : ShapeCause}

theorem placed?_any_iff {n : Text} : d.placed?.any (·.name == n) = true ↔ d.Declares n := by
  by_cases marked : d.type.Marks
  · simp [placed?, Declares, marked]
  · simp only [placed?, Declares, marked, if_false, Option.any_map, not_false_eq_true, and_true,
      ← name?_eq_some]
    cases d.name? with
    | none => simp
    | some k => simp [PlacedField.name]

theorem firstLine?_eq_some {n : Text} {line : Nat} :
    PlacedField.firstLine? (before.filterMap placed?) n = some line ↔
      ∃ earlier first between, before = earlier ++ first :: between ∧ first.Declares n ∧
        (∀ e ∈ earlier, ¬ e.Declares n) ∧ line = first.targetAt.line := by
  rw [PlacedField.firstLine?, List.find?_filterMap]
  simp only [Option.map_eq_some_iff, Option.bind_eq_some_iff, List.find?_eq_some_iff_append, placed?_any_iff,
    Bool.not_eq_true', ← Bool.not_eq_true]
  constructor
  · rintro ⟨p, ⟨first, ⟨declared, earlier, between, split, fresh⟩, given⟩, rfl⟩
    exact ⟨earlier, first, between, split, declared, fresh, by rw [(placed?_eq_some.mp given).2.2]⟩
  · rintro ⟨earlier, first, between, split, declared, fresh, rfl⟩
    obtain ⟨p, given⟩ : ∃ p, first.placed? = some p :=
      Option.isSome_iff_exists.mp (Option.isSome_of_any (placed?_any_iff.mpr declared))
    exact ⟨p, ⟨first, ⟨declared, earlier, between, split, fresh⟩, given⟩, by rw [(placed?_eq_some.mp given).2.2]⟩

theorem fieldCause?_eq_some {n : Text} (declares : d.Declares n) :
    fieldCause? record reserved (before.filterMap placed?) n = some cause ↔
      d.Breaks record reserved before cause := by
  have same {k : Text} (again : d.Declares k) : k = n := Expr.name.inj (again.1.symm.trans declares.1)
  unfold fieldCause?
  by_cases starts : Text.startsWith "__" n = true
  · rw [if_pos starts, Option.some.injEq]
    constructor
    · rintro rfl
      exact .hidden declares starts
    · rintro (other | ⟨again, _⟩ | ⟨again, visible, _⟩ | ⟨again, visible, _⟩)
      · exact absurd declares.1 (other n)
      · rw [same again]
      · cases starts.symm.trans (same again ▸ visible)
      · cases starts.symm.trans (same again ▸ visible)
  · have visible := Bool.eq_false_iff.mpr starts
    have own : n ∉ builderMembers := fun member => starts (builderMembers_hidden member)
    have among : (reserved.elem n || builderMembers.elem n) = true ↔ n ∈ reserved := by simp [own]
    rw [if_neg starts]
    by_cases taken : n ∈ reserved
    · rw [if_pos (among.mpr taken), Option.some.injEq]
      constructor
      · rintro rfl
        exact .reserved declares visible taken
      · rintro (other | ⟨again, hidden⟩ | ⟨again, _⟩ | ⟨again, _, free⟩)
        · exact absurd declares.1 (other n)
        · exact absurd (same again ▸ hidden) starts
        · rw [same again]
        · exact absurd (same again ▸ taken) free
    · rw [if_neg (mt among.mp taken), Option.map_eq_some_iff]
      constructor
      · rintro ⟨line, found, rfl⟩
        obtain ⟨earlier, first, between, behind, declared, fresh, rfl⟩ := firstLine?_eq_some.mp found
        exact .repeated declares visible taken behind declared fresh
      · rintro (other | ⟨again, hidden⟩ | ⟨again, _, there⟩ | ⟨again, _, _, behind, declared, fresh⟩)
        · exact absurd declares.1 (other n)
        · exact absurd (same again ▸ hidden) starts
        · exact absurd (same again ▸ there) taken
        · obtain rfl := same again
          exact ⟨_, firstLine?_eq_some.mpr ⟨_, _, _, behind, declared, fresh, rfl⟩, rfl⟩

/-- The rule that is broken first decides about the cause. -/
theorem cause?_eq_some :
    d.cause? record reserved (before.filterMap placed?) = some cause ↔ d.Breaks record reserved before cause := by
  unfold cause?
  cases named : d.name? with
  | none =>
    have other : ∀ n, d.target ≠ .name n := fun n same => by
      cases named.symm.trans (name?_eq_some.mpr same)
    rw [Option.some.injEq]
    constructor
    · rintro rfl
      exact .unnamed other
    · rintro (_ | ⟨declares, _⟩ | ⟨declares, _⟩ | ⟨declares, _⟩)
      · rfl
      · exact absurd declares.1 (other _)
      · exact absurd declares.1 (other _)
      · exact absurd declares.1 (other _)
  | some n =>
    by_cases marked : d.type.Marks
    · refine iff_of_false (by simp [marked]) ?_
      rintro (other | ⟨declares, _⟩ | ⟨declares, _⟩ | ⟨declares, _⟩)
      · exact other n (name?_eq_some.mp named)
      · exact declares.2 marked
      · exact declares.2 marked
      · exact declares.2 marked
    · simp only [marked, if_false]
      exact fieldCause?_eq_some ⟨name?_eq_some.mp named, marked⟩

theorem unbrokenBehind_nil : UnbrokenBehind record reserved before [] := by
  intro clean d after split
  exact absurd split.symm (List.append_ne_nil_of_right_ne_nil clean (List.cons_ne_nil d after))

theorem unbrokenBehind_cons {rest : List FieldDecl} :
    UnbrokenBehind record reserved before (d :: rest) ↔
      (∀ cause, ¬ d.Breaks record reserved before cause) ∧
        UnbrokenBehind record reserved (before ++ [d]) rest := by
  constructor
  · intro unbroken
    refine ⟨fun cause => ?_, fun clean e after split cause => ?_⟩
    · simpa using unbroken [] d rest rfl cause
    · simpa using unbroken (d :: clean) e after (by rw [split, List.cons_append]) cause
  · rintro ⟨first, others⟩ (_ | ⟨e, clean⟩) f after split cause
    · cases split
      simpa using first cause
    · cases split
      simpa using others clean f after rfl cause

theorem UnbrokenBehind.named {ds : List FieldDecl} (clean : UnbrokenBehind record reserved before ds) :
    ∀ d ∈ ds, ∃ n, d.target = .name n := by
  intro d member
  obtain ⟨front, after, split⟩ := List.append_of_mem member
  by_contra other
  exact clean front d after split _ (.unnamed (not_exists.mp other))

/-- Of several annotations none breaks a rule, or one of them is the first that does. -/
theorem unbrokenBehind_or (record : Text) (reserved : List Text) (before ds : List FieldDecl) :
    UnbrokenBehind record reserved before ds ∨
      ∃ clean d after cause, ds = clean ++ d :: after ∧ UnbrokenBehind record reserved before clean ∧
        d.Breaks record reserved (before ++ clean) cause := by
  induction ds generalizing before with
  | nil => exact Or.inl unbrokenBehind_nil
  | cons d rest ih =>
    by_cases wrong : ∃ cause, d.Breaks record reserved before cause
    · obtain ⟨cause, breaks⟩ := wrong
      exact Or.inr ⟨[], d, rest, cause, rfl, unbrokenBehind_nil, by rwa [List.append_nil]⟩
    · have fits := not_exists.mp wrong
      rcases ih (before ++ [d]) with clean | ⟨clean, e, after, cause, split, unbroken, breaks⟩
      · exact Or.inl (unbrokenBehind_cons.mpr ⟨fits, clean⟩)
      · refine Or.inr ⟨d :: clean, e, after, cause, by rw [split, List.cons_append],
          unbrokenBehind_cons.mpr ⟨fits, unbroken⟩, ?_⟩
        simpa using breaks

/-- Annotations that break no rule add what they declare. -/
theorem UnbrokenBehind.collectFields_append {ds : List FieldDecl}
    (clean : UnbrokenBehind record reserved before ds) (rest : List FieldDecl) :
    collectFields record reserved (before.filterMap placed?) (ds ++ rest) =
      collectFields record reserved ((before ++ ds).filterMap placed?) rest := by
  induction ds generalizing before with
  | nil => rw [List.nil_append, List.append_nil]
  | cons d ds ih =>
    obtain ⟨fits, others⟩ := unbrokenBehind_cons.mp clean
    have fine : d.cause? record reserved (before.filterMap placed?) = none :=
      Option.eq_none_iff_forall_ne_some.mpr fun cause wrong => fits cause (cause?_eq_some.mp wrong)
    have added : before.filterMap placed? ++ d.placed?.toList = (before ++ [d]).filterMap placed? := by
      cases given : d.placed? <;> simp [given]
    rw [List.cons_append, collectFields_cons, fine, List.append_cons before d ds, ← ih others, ← added]

theorem UnbrokenBehind.collectFields_breaks {clean after : List FieldDecl}
    (unbroken : UnbrokenBehind record reserved before clean)
    (breaks : d.Breaks record reserved (before ++ clean) cause) :
    collectFields record reserved (before.filterMap placed?) (clean ++ d :: after) =
      .error ⟨cause, d.targetAt⟩ := by
  rw [unbroken.collectFields_append, collectFields_cons, cause?_eq_some.mpr breaks]

theorem UnbrokenBehind.collectFields_eq {ds : List FieldDecl}
    (clean : UnbrokenBehind record reserved before ds) :
    collectFields record reserved (before.filterMap placed?) ds = .ok ((before ++ ds).filterMap placed?) := by
  rw [← List.append_nil ds, clean.collectFields_append, collectFields, List.append_nil]

theorem storageClash?_eq_find (placed : List PlacedField) :
    storageClash? placed = placed.find? fun p => decide (∃ n ∈ placed.map PlacedField.name, p.name = 95 :: n) := by
  rw [storageClash?]
  congr 1
  funext p
  split
  · rename_i n named
    simp [named]
  · rename_i other
    have none : ¬ ∃ n ∈ placed.map PlacedField.name, p.name = 95 :: n := fun ⟨n, _, named⟩ => other n named
    rw [decide_eq_false none]

theorem placed?_any_slot_iff {names : List Text} :
    d.placed?.any (fun p => decide (∃ n ∈ names, p.name = 95 :: n)) = true ↔
      ∃ n ∈ names, d.Declares (95 :: n) := by
  simp only [← placed?_any_iff, Option.any_eq_true, decide_eq_true_eq, beq_iff_eq]
  exact ⟨fun ⟨p, given, n, member, named⟩ => ⟨n, member, p, given, named⟩,
    fun ⟨n, member, p, given, named⟩ => ⟨p, given, n, member, named⟩⟩

/-- The storage check finds the first annotation that declares a field called like the slot of another one. -/
theorem storageClash?_eq_some {ds : List FieldDecl} {p : PlacedField} :
    storageClash? (ds.filterMap placed?) = some p ↔
      ∃ before d after, ds = before ++ d :: after ∧
        (∃ n ∈ (ds.filterMap placed?).map PlacedField.name, d.Declares (95 :: n)) ∧
        (∀ e ∈ before, ¬ ∃ n ∈ (ds.filterMap placed?).map PlacedField.name, e.Declares (95 :: n)) ∧
        d.placed? = some p := by
  rw [storageClash?_eq_find, List.find?_filterMap]
  simp only [Option.bind_eq_some_iff, List.find?_eq_some_iff_append, placed?_any_slot_iff, Bool.not_eq_true',
    ← Bool.not_eq_true]
  constructor
  · rintro ⟨d, ⟨slot, before, after, split, first⟩, given⟩
    exact ⟨before, d, after, split, slot, first, given⟩
  · rintro ⟨before, d, after, split, slot, first, given⟩
    exact ⟨d, ⟨slot, before, after, split, first⟩, given⟩

end FieldDecl

namespace ClassDecl

variable {c : ClassDecl} {reserved : List Text} {fault : ShapeFault}

theorem recordNames_eq (c : ClassDecl) :
    c.recordNames = (c.annotations.filterMap FieldDecl.placed?).map PlacedField.name :=
  FieldDecl.filterMap_name? c.annotations

theorem fields_of_unbroken (clean : c.Unbroken reserved c.annotations) :
    c.fields reserved =
      match storageClash? (c.annotations.filterMap FieldDecl.placed?) with
      | some p => .error ⟨.storageClash c.name p.name, p.nameAt⟩
      | none => .ok ((c.annotations.filterMap FieldDecl.placed?).map PlacedField.field) := by
  have collected : collectFields c.name reserved [] (c.body.filterMap Stmt.fieldDecl?) =
      .ok (c.annotations.filterMap FieldDecl.placed?) := clean.collectFields_eq
  rw [fields, collected]
  rfl

theorem Blames.record_eq (blames : c.Blames reserved fault) : c.record reserved = .error fault := by
  cases blames with
  | enumeration derives => rw [record, if_pos (isEnum_iff.mpr derives)]
  | @broken before d after cause noEnum split clean breaks =>
    have run : c.fields reserved = .error ⟨cause, d.targetAt⟩ := by
      rw [fields, show c.body.filterMap Stmt.fieldDecl? = before ++ d :: after from split]
      exact bind_eq_error.mpr (Or.inl (clean.collectFields_breaks breaks))
    rw [record, if_neg (mt isEnum_iff.mp noEnum), run]
    rfl
  | @storage before d after n noEnum clean split slot field first =>
    have named : d.placed? = some ⟨⟨95 :: n, d.type, d.place, none⟩, d.targetAt⟩ := by
      simp [FieldDecl.placed?, slot.2, FieldDecl.name?_eq_some.mpr slot.1]
    have names := recordNames_eq c
    have earlier : ∀ e ∈ before,
        ¬ ∃ k ∈ (c.annotations.filterMap FieldDecl.placed?).map PlacedField.name, e.Declares (95 :: k) := by
      rintro e member ⟨k, there, again⟩
      exact first e member k again (names ▸ there)
    have found := FieldDecl.storageClash?_eq_some.mpr
      ⟨before, d, after, split, ⟨n, names ▸ field, slot⟩, earlier, named⟩
    have run : c.fields reserved = .error ⟨.storageClash c.name (95 :: n), d.targetAt⟩ := by
      rw [fields_of_unbroken clean, found]
      rfl
    rw [record, if_neg (mt isEnum_iff.mp noEnum), run]
    rfl
  | fieldless noEnum clean none =>
    have noNames : c.recordNames = [] := by rw [recordNames, none, List.filterMap_nil]
    have run : c.fields reserved = .ok [] := by
      refine fields_eq_ok.mpr ⟨clean.named, ?_, ?_, ?_⟩
      · rw [noNames]
        exact List.nodup_nil
      · rw [noNames]
        constructor <;> simp
      · rw [none]
        exact .nil
    rw [record, if_neg (mt isEnum_iff.mp noEnum), run]
    rfl

/-- A class is well-shaped, or there is something to blame it for. -/
theorem wellShaped_or_blames (c : ClassDecl) (reserved : List Text) :
    c.WellShaped reserved ∨ ∃ fault, c.Blames reserved fault := by
  by_cases derives : c.DerivesEnum
  · exact Or.inr ⟨_, .enumeration derives⟩
  rcases FieldDecl.unbrokenBehind_or c.name reserved [] c.annotations with
    clean | ⟨before, d, after, cause, split, clean, breaks⟩
  · have names := recordNames_eq c
    have run := fields_of_unbroken clean
    cases found : storageClash? (c.annotations.filterMap FieldDecl.placed?) with
    | some p =>
      obtain ⟨before, d, after, split, ⟨n, member, slot⟩, first, _⟩ := FieldDecl.storageClash?_eq_some.mp found
      exact Or.inr ⟨_, .storage derives clean split slot (names ▸ member) fun e front k again there =>
        first e front ⟨k, names ▸ there, again⟩⟩
    | none =>
      rw [found] at run
      obtain ⟨named, distinct, checks, _⟩ := fields_eq_ok.mp run
      by_cases none : c.recordDecls = []
      · exact Or.inr ⟨_, .fieldless derives clean none⟩
      · exact Or.inl ⟨derives, named, none, distinct, checks⟩
  · exact Or.inr ⟨_, .broken derives split clean breaks⟩

theorem record_eq_error : c.record reserved = .error fault ↔ c.Blames reserved fault := by
  refine ⟨fun rejected => ?_, Blames.record_eq⟩
  rcases wellShaped_or_blames c reserved with shaped | ⟨other, blames⟩
  · obtain ⟨r, describes⟩ := shaped.exists_describes
    cases rejected.symm.trans (record_eq_ok_iff.mpr ⟨shaped, describes⟩)
  · cases rejected.symm.trans blames.record_eq
    exact blames

end ClassDecl

theorem ShapeCause.message_ok_iff {cause : ShapeCause} :
    (∃ message, cause.message = .ok message) ↔ cause.Tellable := by
  cases cause with
  | unnamedField record target =>
    constructor
    · rintro ⟨_, told⟩ _ _ ⟨⟩
      obtain ⟨t, shown, _⟩ := bind_eq_ok.mp told
      exact ⟨t, shown⟩
    · intro tellable
      obtain ⟨t, shown⟩ := tellable record target rfl
      exact ⟨_, bind_eq_ok.mpr ⟨t, shown, rfl⟩⟩
  | _ => exact iff_of_true ⟨_, rfl⟩ fun _ _ same => by cases same

/-- A class is rejected for the first offence, and what it is blamed for is reported at its place exactly if
it can be told. -/
theorem ClassDecl.record_blames_first (c : ClassDecl) (reserved : List Text) (fault : ShapeFault) :
    (c.record reserved = .error fault ↔ c.Blames reserved fault) ∧
      ((∃ message, Diagnostic.ofShape fault = .ok (.errorAt fault.place message)) ↔ fault.cause.Tellable) := by
  refine ⟨record_eq_error, ?_⟩
  rw [← ShapeCause.message_ok_iff]
  constructor
  · rintro ⟨message, reported⟩
    obtain ⟨told, holds, _⟩ := bind_eq_ok.mp reported
    exact ⟨told, holds⟩
  · rintro ⟨message, told⟩
    exact ⟨message, bind_eq_ok.mpr ⟨message, told, rfl⟩⟩

/-- The name `a` with a formatted subscript that holds a tab among bytes. -/
def tabSubscript : Expr :=
  .subscript (.name "a") (.formatted [.field (.constant (.bytes [9])) none])

theorem tabSubscript_text : tabSubscript.text = .error .backslashInField :=
  rfl

/-- A class that declares only this target is blamed for it, but the blame cannot be told. -/
theorem tabSubscript_untold :
    ∃ c : ClassDecl, ∃ fault, c.record [] = .error fault ∧ fault.place = ⟨2, 4⟩ ∧
      Diagnostic.ofShape fault = .error .backslashInField := by
  let c : ClassDecl :=
    ⟨⟨1, 0⟩, "A", [], [], [], [.simple ⟨2, 4⟩ (.annotated tabSubscript ⟨2, 4⟩ false (.name "int") none)]⟩
  refine ⟨c, ⟨.unnamedField "A" tabSubscript, ⟨2, 4⟩⟩, rfl, rfl, ?_⟩
  exact bind_eq_error.mpr (Or.inl (bind_eq_error.mpr (Or.inl tabSubscript_text)))

end FluentRecords
