import FluentRecords.Proofs.Outcome
import FluentRecords.Record.Shape
import Mathlib.Data.List.Forall2
import Mathlib.Data.List.Nodup

/-!
Accepted declarations. A declaration has a record exactly if it is a class of the right shape: no
enumeration, all annotations on plain names, and what they declare a nonempty list of names that keep clear
of each other. The record then lists these annotations in the order of the body.
-/

namespace FluentRecords

namespace Expr

/-- An expression ends in a name: it is that name, or an attribute of that name. -/
def EndsIn (e : Expr) (n : Text) : Prop :=
  e = .name n ∨ ∃ value, e = .member value n

/-- An annotation, or what it subscripts, ends in the name of a marker. -/
def Marks (type : Expr) : Prop :=
  ∃ n ∈ markerNames, type.EndsIn n ∨ ∃ value index, type = .subscript value index ∧ value.EndsIn n

theorem lastName?_eq_some {e : Expr} {n : Text} : e.lastName? = some n ↔ e.EndsIn n := by
  cases e <;> simp [lastName?, EndsIn]

theorem lastName?_among_iff {e : Expr} {names : List Text} :
    (e.lastName?.map (names.elem ·)).getD false = true ↔ ∃ n ∈ names, e.EndsIn n := by
  simp only [← lastName?_eq_some]
  cases e.lastName? <;> simp

theorem isMarker_iff {type : Expr} : type.isMarker = true ↔ type.Marks := by
  have bare (e : Expr) : e.isMarker = true → e.Marks := by
    unfold isMarker
    split
    · rename_i value index
      intro marked
      obtain ⟨n, member, ends⟩ := lastName?_among_iff.mp marked
      exact ⟨n, member, Or.inr ⟨value, index, rfl, ends⟩⟩
    · intro marked
      obtain ⟨n, member, ends⟩ := lastName?_among_iff.mp marked
      exact ⟨n, member, Or.inl ends⟩
  refine ⟨bare type, ?_⟩
  rintro ⟨n, member, (rfl | ⟨value, rfl⟩) | ⟨value, index, rfl, ends⟩⟩
  · exact lastName?_among_iff.mpr ⟨n, member, Or.inl rfl⟩
  · exact lastName?_among_iff.mpr ⟨n, member, Or.inr ⟨value, rfl⟩⟩
  · exact lastName?_among_iff.mpr ⟨n, member, ends⟩

instance : DecidablePred Marks :=
  fun _ => decidable_of_iff _ isMarker_iff

end Expr

namespace FieldDecl

/-- The plain name that is annotated. -/
def name? (d : FieldDecl) : Option Text :=
  match d.target with
  | .name n => some n
  | _ => none

/-- A field is what an annotation declares: of its name and type, at the place of its statement, and not
classified. -/
structure Gives (d : FieldDecl) (f : Field) : Prop where
  name : d.target = .name f.name
  type : f.declared = d.type
  place : f.place = d.place
  unclassified : f.classification = none

theorem name?_eq_some {d : FieldDecl} {n : Text} : d.name? = some n ↔ d.target = .name n := by
  unfold name?
  split <;> simp_all

/-- The field that an annotation declares, unless it is a marker. -/
def placed? (d : FieldDecl) : Option PlacedField :=
  if d.type.Marks then none else d.name?.map fun n => ⟨⟨n, d.type, d.place, none⟩, d.targetAt⟩

/-- What is wrong with an annotation behind others. -/
def cause? (record : Text) (reserved : List Text) (before : List PlacedField) (d : FieldDecl) :
    Option ShapeCause :=
  match d.name? with
  | none => some (.unnamedField record d.target)
  | some n => if d.type.Marks then none else fieldCause? record reserved before n

end FieldDecl

namespace ClassDecl

/-- A base of the class ends in the name of an enumeration. -/
def DerivesEnum (c : ClassDecl) : Prop :=
  ∃ b ∈ c.bases, ∃ n ∈ enumBases, b.EndsIn n

/-- The annotated assignments directly in the body. -/
def annotations (c : ClassDecl) : List FieldDecl :=
  c.body.filterMap Stmt.fieldDecl?

/-- The annotated assignments that declare a field. -/
def recordDecls (c : ClassDecl) : List FieldDecl :=
  c.annotations.filter fun d => ¬ d.type.Marks

/-- The names that these annotate. -/
def recordNames (c : ClassDecl) : List Text :=
  c.recordDecls.filterMap FieldDecl.name?

end ClassDecl

/-- What the checks of a declaration leave of the names of its fields. -/
structure FieldNames (reserved names : List Text) : Prop where
  visible : ∀ n ∈ names, Text.startsWith "__" n = false
  unreserved : ∀ n ∈ names, n ∉ reserved
  unpaired : ∀ n ∈ names, 95 :: n ∉ names

namespace ClassDecl

/-- The shape of a class that gets a builder. -/
structure WellShaped (c : ClassDecl) (reserved : List Text) : Prop where
  noEnum : ¬ c.DerivesEnum
  named : ∀ d ∈ c.annotations, ∃ n, d.target = .name n
  nonempty : c.recordDecls ≠ []
  distinct : c.recordNames.Nodup
  names : FieldNames reserved c.recordNames

/-- A record that is called like the class, stands at its place and has a field for each annotation that
declares one, in the order of the body. -/
structure Describes (c : ClassDecl) (r : Record) : Prop where
  name : r.name = c.name
  place : r.place = c.place
  fields : List.Forall₂ FieldDecl.Gives c.recordDecls r.fields

theorem isEnum_iff {c : ClassDecl} : c.isEnum = true ↔ c.DerivesEnum := by
  simp only [isEnum, List.any_eq_true, Expr.lastName?_among_iff, DerivesEnum]

end ClassDecl

/-- One annotation is either the first fault, or it adds the field that it declares. -/
theorem collectFields_cons (record : Text) (reserved : List Text) (before : List PlacedField) (d : FieldDecl)
    (rest : List FieldDecl) :
    collectFields record reserved before (d :: rest) =
      match d.cause? record reserved before with
      | some cause => .error ⟨cause, d.targetAt⟩
      | none => collectFields record reserved (before ++ d.placed?.toList) rest := by
  rw [collectFields]
  cases named : d.target with
  | name n =>
    have isNamed : d.name? = some n := FieldDecl.name?_eq_some.mpr named
    by_cases marked : d.type.Marks
    · simp [Expr.isMarker_iff, FieldDecl.cause?, FieldDecl.placed?, isNamed, marked]
    · cases wrong : fieldCause? record reserved before n <;>
        simp [Expr.isMarker_iff, FieldDecl.cause?, FieldDecl.placed?, isNamed, marked, wrong]
  | _ => simp [FieldDecl.cause?, FieldDecl.name?, named]

theorem builderMembers_hidden {n : Text} (member : n ∈ builderMembers) : Text.startsWith "__" n = true := by
  simp only [builderMembers, List.mem_cons, List.not_mem_nil, or_false] at member
  rcases member with rfl | rfl <;> decide

theorem PlacedField.firstLine?_eq_none {before : List PlacedField} {n : Text} :
    PlacedField.firstLine? before n = none ↔ n ∉ before.map PlacedField.name := by
  simp [PlacedField.firstLine?]

theorem fieldCause?_eq_none {record n : Text} {reserved : List Text} {before : List PlacedField}
    (fine : fieldCause? record reserved before n = none) :
    Text.startsWith "__" n = false ∧ n ∉ reserved := by
  unfold fieldCause? at fine
  split at fine
  · cases fine
  · rename_i visible
    split at fine
    · cases fine
    · rename_i free
      simp only [Bool.or_eq_true, List.elem_eq_mem, decide_eq_true_eq, not_or] at free
      exact ⟨Bool.eq_false_iff.mpr visible, free.1⟩

theorem fieldCause?_eq_none_iff {record n : Text} {reserved : List Text} {before : List PlacedField} :
    fieldCause? record reserved before n = none ↔
      Text.startsWith "__" n = false ∧ n ∉ reserved ∧ n ∉ before.map PlacedField.name := by
  constructor
  · intro fine
    obtain ⟨visible, free⟩ := fieldCause?_eq_none fine
    have fresh : PlacedField.firstLine? before n = none := by
      have own : n ∉ builderMembers := fun member =>
        Bool.false_ne_true (visible.symm.trans (builderMembers_hidden member))
      simpa [fieldCause?, visible, free, own] using fine
    exact ⟨visible, free, PlacedField.firstLine?_eq_none.mp fresh⟩
  · rintro ⟨visible, free, fresh⟩
    have own : n ∉ builderMembers := fun member =>
      Bool.false_ne_true (visible.symm.trans (builderMembers_hidden member))
    simp [fieldCause?, visible, free, own, PlacedField.firstLine?_eq_none.mpr fresh]

theorem FieldDecl.placed?_eq_some {d : FieldDecl} {p : PlacedField} :
    d.placed? = some p ↔ ¬ d.type.Marks ∧ d.Gives p.field ∧ p.nameAt = d.targetAt := by
  obtain ⟨⟨n, type, place, classification⟩, nameAt⟩ := p
  by_cases marked : d.type.Marks
  · simp [placed?, marked]
  · simp only [placed?, marked, if_false, Option.map_eq_some_iff, name?_eq_some, not_false_eq_true, true_and]
    constructor
    · rintro ⟨_, named, same⟩
      cases same
      exact ⟨⟨named, rfl, rfl, rfl⟩, rfl⟩
    · rintro ⟨⟨named, rfl, rfl, rfl⟩, rfl⟩
      exact ⟨n, named, rfl⟩

/-- An annotation is in order behind others if it is on a name, and what it declares passes the checks of names
and is declared for the first time. -/
theorem FieldDecl.cause?_eq_none {record : Text} {reserved : List Text} {before : List PlacedField}
    {d : FieldDecl} (old : (before.map PlacedField.name).Nodup) :
    d.cause? record reserved before = none ↔
      (∃ n, d.target = .name n) ∧
        (∀ p ∈ d.placed?.toList, Text.startsWith "__" p.name = false ∧ p.name ∉ reserved) ∧
        ((before ++ d.placed?.toList).map PlacedField.name).Nodup := by
  cases isNamed : d.name? with
  | none =>
    have unnamed : ¬ ∃ n, d.target = .name n := by
      rintro ⟨n, named⟩
      cases isNamed.symm.trans (name?_eq_some.mpr named)
    simp [cause?, isNamed, unnamed]
  | some n =>
    have named : ∃ n, d.target = .name n := ⟨n, name?_eq_some.mp isNamed⟩
    by_cases marked : d.type.Marks
    · simp [cause?, placed?, isNamed, marked, named, old]
    · have added : ((before ++ d.placed?.toList).map PlacedField.name).Nodup ↔
          n ∉ before.map PlacedField.name := by
        simp only [placed?, isNamed, marked, if_false, Option.map_some, Option.toList_some, List.map_append,
          List.map_cons, List.map_nil]
        rw [List.nodup_append_comm, List.singleton_append, List.nodup_cons]
        exact and_iff_left old
      rw [added]
      simp only [cause?, placed?, isNamed, marked, if_false, fieldCause?_eq_none_iff, named, true_and,
        Option.map_some, Option.toList_some, List.mem_singleton, forall_eq, and_assoc]
      rfl

/-- The fields of a body are collected exactly if all annotations are on names and the declared names pass
the checks of names, each of them for the first time. -/
theorem collectFields_eq_ok {record : Text} {reserved : List Text} {before placed : List PlacedField}
    {ds : List FieldDecl} (old : (before.map PlacedField.name).Nodup) :
    collectFields record reserved before ds = .ok placed ↔
      (∀ d ∈ ds, ∃ n, d.target = .name n) ∧
        (∀ p ∈ ds.filterMap FieldDecl.placed?, Text.startsWith "__" p.name = false ∧ p.name ∉ reserved) ∧
        ((before ++ ds.filterMap FieldDecl.placed?).map PlacedField.name).Nodup ∧
        placed = before ++ ds.filterMap FieldDecl.placed? := by
  induction ds generalizing before with
  | nil =>
    have same : collectFields record reserved before [] = .ok placed ↔ placed = before := by
      rw [collectFields, Except.ok.injEq, eq_comm]
    simp [same, old]
  | cons d rest ih =>
    have first : (d :: rest).filterMap FieldDecl.placed? =
        d.placed?.toList ++ rest.filterMap FieldDecl.placed? := by
      cases given : d.placed? <;> simp [given]
    rw [collectFields_cons, first, ← List.append_assoc]
    cases wrong : d.cause? record reserved before with
    | none =>
      obtain ⟨named, fine, distinct⟩ := (FieldDecl.cause?_eq_none old).mp wrong
      simp only [ih distinct, List.forall_mem_cons, List.forall_mem_append, named, true_and]
      constructor
      · rintro ⟨others, later, rest⟩
        exact ⟨others, ⟨fine, later⟩, rest⟩
      · rintro ⟨others, ⟨_, later⟩, rest⟩
        exact ⟨others, later, rest⟩
    | some cause =>
      refine iff_of_false (fun run => by cases run) ?_
      rintro ⟨named, fine, distinct, _⟩
      have fits : d.cause? record reserved before = none := (FieldDecl.cause?_eq_none old).mpr
        ⟨named d List.mem_cons_self, fun p member => fine p (List.mem_append_left _ member),
          (List.nodup_append'.mp (List.map_append ▸ distinct)).1⟩
      cases wrong.symm.trans fits

theorem FieldDecl.Gives.eq_of_named {d : FieldDecl} {f : Field} {n : Text} (gives : d.Gives f)
    (named : d.target = .name n) : f = ⟨n, d.type, d.place, none⟩ := by
  obtain ⟨name, type, place, classification⟩ := f
  obtain ⟨given, rfl, rfl, rfl⟩ := gives
  cases Expr.name.inj (named.symm.trans given)
  rfl

/-- The fields that are collected are those that the annotations without a marker give. -/
theorem FieldDecl.forall₂_gives {ds : List FieldDecl} {fs : List Field}
    (named : ∀ d ∈ ds, ∃ n, d.target = .name n) :
    List.Forall₂ Gives (ds.filter fun d => ¬ d.type.Marks) fs ↔
      fs = (ds.filterMap placed?).map PlacedField.field := by
  induction ds generalizing fs with
  | nil => simp
  | cons d rest ih =>
    obtain ⟨⟨n, isNamed⟩, others⟩ := List.forall_mem_cons.mp named
    by_cases marked : d.type.Marks
    · have none : d.placed? = none := by simp [placed?, marked]
      rw [List.filterMap_cons_none none, List.filter_cons_of_neg (by simpa using marked)]
      exact ih others
    · have given : d.placed? = some ⟨⟨n, d.type, d.place, none⟩, d.targetAt⟩ := by
        simp [placed?, marked, name?_eq_some.mpr isNamed]
      rw [List.filterMap_cons_some given, List.filter_cons_of_pos (by simpa using marked), List.map_cons]
      constructor
      · rintro (_ | ⟨gives, more⟩)
        rw [gives.eq_of_named isNamed, (ih others).mp more]
      · rintro rfl
        exact .cons ⟨isNamed, rfl, rfl, rfl⟩ ((ih others).mpr rfl)

theorem FieldDecl.filterMap_name? (ds : List FieldDecl) :
    (ds.filter fun d => ¬ d.type.Marks).filterMap name? = (ds.filterMap placed?).map PlacedField.name := by
  induction ds with
  | nil => rfl
  | cons d rest ih =>
    by_cases marked : d.type.Marks
    · have none : d.placed? = none := by simp [placed?, marked]
      rw [List.filterMap_cons_none none, List.filter_cons_of_neg (by simpa using marked), ih]
    · rw [List.filter_cons_of_pos (by simpa using marked), List.filterMap_cons, List.filterMap_cons, ih]
      cases named : d.name? with
      | none => simp [placed?, marked, named]
      | some n =>
        simp [placed?, marked, named]
        rfl

theorem firstRepeated?_of_nodup {seen names : List Text} (distinct : names.Nodup)
    (fresh : ∀ n ∈ names, n ∉ seen) : firstRepeated? seen names = none := by
  induction names generalizing seen with
  | nil => rfl
  | cons n rest ih =>
    obtain ⟨once, others⟩ := List.nodup_cons.mp distinct
    obtain ⟨here, later⟩ := List.forall_mem_cons.mp fresh
    rw [firstRepeated?, if_neg here]
    refine ih others fun k member there => ?_
    rcases List.mem_cons.mp there with rfl | there
    · exact once member
    · exact later k member there

/-- Fields make a record exactly if there are some and no two of them share a name. -/
theorem Record.ofFields_eq_ok {name : Text} {fs : List Field} {place : Pos} {r : Record} :
    Record.ofFields name fs place = .ok r ↔
      fs ≠ [] ∧ (fs.map Field.name).Nodup ∧ r.name = name ∧ r.place = place ∧ r.fields = fs := by
  obtain ⟨_, _, _, some, distinct⟩ := r
  constructor
  · intro made
    unfold Record.ofFields at made
    split at made
    · split at made
      · cases made
      · cases made
        exact ⟨some, distinct, rfl, rfl, rfl⟩
    · cases made
  · rintro ⟨_, _, rfl, rfl, rfl⟩
    unfold Record.ofFields
    rw [dif_pos some]
    split
    · rename_i found
      cases found.symm.trans (firstRepeated?_of_nodup distinct fun _ _ => List.not_mem_nil)
    · rfl

theorem storageClash?_eq_none_iff {placed : List PlacedField} :
    storageClash? placed = none ↔
      ∀ n ∈ placed.map PlacedField.name, 95 :: n ∉ placed.map PlacedField.name := by
  refine ⟨fun clear n member paired => ?_, fun unpaired => ?_⟩
  · obtain ⟨p, inside, named⟩ := List.mem_map.mp paired
    have passed := List.find?_eq_none.mp clear p inside
    rw [named] at passed
    exact passed (List.elem_eq_true_of_mem member)
  · refine List.find?_eq_none.mpr fun p member clash => ?_
    split at clash
    · rename_i n named
      exact unpaired n (List.mem_of_elem_eq_true clash) (named ▸ List.mem_map_of_mem member)
    · cases clash

/-- The fields of a body, all checks included. -/
theorem ClassDecl.fields_eq_ok {c : ClassDecl} {reserved : List Text} {fs : List Field} :
    c.fields reserved = .ok fs ↔
      (∀ d ∈ c.annotations, ∃ n, d.target = .name n) ∧ c.recordNames.Nodup ∧
        FieldNames reserved c.recordNames ∧ List.Forall₂ FieldDecl.Gives c.recordDecls fs := by
  have names : c.recordNames = (c.annotations.filterMap FieldDecl.placed?).map PlacedField.name :=
    FieldDecl.filterMap_name? c.annotations
  have collected (placed : List PlacedField) :
      collectFields c.name reserved [] c.annotations = .ok placed ↔ _ :=
    collectFields_eq_ok List.nodup_nil
  rw [names]
  constructor
  · intro run
    obtain ⟨placed, collect, run⟩ := bind_eq_ok.mp run
    obtain ⟨named, fine, distinct, rfl⟩ := (collected placed).mp collect
    split at run
    · cases run
    · rename_i clear
      cases run
      refine ⟨named, distinct, ⟨?_, ?_, storageClash?_eq_none_iff.mp clear⟩,
        (FieldDecl.forall₂_gives named).mpr rfl⟩
      · exact List.forall_mem_map.mpr fun p member => (fine p member).1
      · exact List.forall_mem_map.mpr fun p member => (fine p member).2
  · rintro ⟨named, distinct, checks, gives⟩
    have fine := fun p member => And.intro (List.forall_mem_map.mp checks.visible p member)
      (List.forall_mem_map.mp checks.unreserved p member)
    refine bind_eq_ok.mpr ⟨_, (collected _).mpr ⟨named, fine, distinct, rfl⟩, ?_⟩
    rw [List.nil_append, storageClash?_eq_none_iff.mpr checks.unpaired, (FieldDecl.forall₂_gives named).mp gives]

theorem FieldDecl.names_of_gives {ds : List FieldDecl} {fs : List Field} (gives : List.Forall₂ Gives ds fs) :
    ds.filterMap name? = fs.map Field.name := by
  induction gives with
  | nil => rfl
  | cons here _ ih => rw [List.filterMap_cons_some (name?_eq_some.mpr here.name), ih, List.map_cons]

namespace ClassDecl

variable {c : ClassDecl} {reserved : List Text} {r : Record}

theorem record_eq_ok_iff : c.record reserved = .ok r ↔ c.WellShaped reserved ∧ c.Describes r := by
  unfold record
  constructor
  · intro run
    split at run
    · cases run
    · rename_i plain
      obtain ⟨fs, collected, run⟩ := bind_eq_ok.mp run
      split at run
      · cases run
      · obtain ⟨some, _, name, place, rfl⟩ := Record.ofFields_eq_ok.mp (mapError_eq_ok.mp run)
        obtain ⟨named, distinct, names, gives⟩ := fields_eq_ok.mp collected
        have nonempty : c.recordDecls ≠ [] := by
          intro none
          rw [none, List.forall₂_nil_left_iff] at gives
          exact some gives
        exact ⟨⟨mt isEnum_iff.mpr plain, named, nonempty, distinct, names⟩, name, place, gives⟩
  · rintro ⟨shaped, describes⟩
    rw [if_neg (mt isEnum_iff.mp shaped.noEnum)]
    refine bind_eq_ok.mpr ⟨r.fields, ?_, ?_⟩
    · exact fields_eq_ok.mpr ⟨shaped.named, shaped.distinct, shaped.names, describes.fields⟩
    · rw [if_neg (mt List.isEmpty_iff.mp r.fields_ne)]
      exact mapError_eq_ok.mpr
        (Record.ofFields_eq_ok.mpr ⟨r.fields_ne, r.distinct, describes.name, describes.place, rfl⟩)

/-- A well-shaped class has a record. -/
theorem WellShaped.exists_describes (shaped : c.WellShaped reserved) : ∃ r, c.Describes r := by
  have gives := (FieldDecl.forall₂_gives shaped.named).mpr rfl
  have nonempty : (c.annotations.filterMap FieldDecl.placed?).map PlacedField.field ≠ [] := by
    intro none
    rw [none, List.forall₂_nil_right_iff] at gives
    exact shaped.nonempty gives
  have distinct := shaped.distinct
  rw [recordNames, recordDecls, FieldDecl.names_of_gives gives] at distinct
  exact ⟨⟨c.name, _, c.place, nonempty, distinct⟩, rfl, rfl, gives⟩

end ClassDecl

/-- A declaration is accepted exactly if it is a well-shaped class, and its record is the one that the class
describes. -/
theorem Declaration.accepts_wellShaped (d : Declaration) (reserved : List Text) :
    ((∃ r, d.record reserved = .ok r) ↔ ∃ c, d.classDecl? = some c ∧ c.WellShaped reserved) ∧
      ∀ r, d.record reserved = .ok r ↔
        ∃ c, d.classDecl? = some c ∧ c.WellShaped reserved ∧ c.Describes r := by
  have accepted (r : Record) : d.record reserved = .ok r ↔
      ∃ c, d.classDecl? = some c ∧ c.WellShaped reserved ∧ c.Describes r := by
    unfold Declaration.record
    cases isClass : d.classDecl? with
    | none => simp
    | some c => simp [ClassDecl.record_eq_ok_iff]
  refine ⟨⟨?_, ?_⟩, accepted⟩
  · rintro ⟨r, run⟩
    obtain ⟨c, isClass, shaped, _⟩ := (accepted r).mp run
    exact ⟨c, isClass, shaped⟩
  · rintro ⟨c, isClass, shaped⟩
    obtain ⟨r, describes⟩ := shaped.exists_describes
    exact ⟨r, (accepted r).mpr ⟨c, isClass, shaped, describes⟩⟩

end FluentRecords
