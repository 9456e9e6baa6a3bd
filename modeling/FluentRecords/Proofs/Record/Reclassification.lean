import FluentRecords.Proofs.Record.Layout
import FluentRecords.Proofs.Record.Offences
import FluentRecords.Proofs.Record.Wrapping

/-!
Classified records. The fields of a record are checked when it is built and not when they are classified. But
classification only replaces what is said of each field, so that whatever it makes of accepted fields, again and again,
would be accepted if a record were built of it, and nothing of an earlier classification is left.
-/

namespace FluentRecords

/-- The fields that a record of a name and a place can come to have: those it is built of, and what classification
makes of them, with any wrapper and any number of times. The lists are followed by themselves here, so that nothing but
the first check stands for them. -/
inductive Record.Reached (name : Text) (place : Pos) : List Field → Prop
  | built {fs : List Field} {r : Record} (made : Record.ofFields name fs place = .ok r) : Reached name place fs
  | classified {fs : List Field} (w : Text) (before : Reached name place fs) :
    Reached name place (fs.map (Field.classify w))

/-- A field is another one classified: what was declared stays, and what is said of it follows from its type alone. -/
structure Field.Classified (w : Text) (f g : Field) : Prop where
  name : g.name = f.name
  declared : g.declared = f.declared
  place : g.place = f.place
  classification : g.classification = some (f.declared.classify w)

/-- Every field of a record is either required or optional, and the fields of both kinds stand in the order of all of
them. -/
structure Record.Parted (r : Record) : Prop where
  required : (r.fieldsOf .required).Sublist r.fields
  optional : (r.fieldsOf .optional).Sublist r.fields
  disjoint : (r.fieldsOf .required).Disjoint (r.fieldsOf .optional)
  together : (r.fieldsOf .required ++ r.fieldsOf .optional).Perm r.fields

theorem Field.classified_classify (w : Text) (f : Field) : f.Classified w (f.classify w) :=
  ⟨rfl, rfl, rfl, rfl⟩

theorem Field.map_name_classify (w : Text) (fs : List Field) :
    (fs.map (Field.classify w)).map Field.name = fs.map Field.name := by
  rw [List.map_map]
  rfl

namespace Record

variable {name w : Text} {place : Pos} {fs : List Field} {r : Record}

/-- One classification keeps what the check looks at. -/
theorem ofFields_classify (made : Record.ofFields name fs place = .ok r) :
    Record.ofFields name (fs.map (Field.classify w)) place = .ok (r.classify w) := by
  obtain ⟨nonempty, distinct, rfl, rfl, rfl⟩ := ofFields_eq_ok.mp made
  refine ofFields_eq_ok.mpr ⟨mt List.map_eq_nil_iff.mp nonempty, ?_, rfl, rfl, rfl⟩
  rw [Field.map_name_classify]
  exact distinct

/-- Fields that can be reached are accepted by the check, however often they were classified. -/
theorem Reached.accepted (reached : Reached name place fs) :
    ∃ r, Record.ofFields name fs place = .ok r ∧ r.fields = fs := by
  induction reached with
  | built made =>
    obtain ⟨-, -, -, -, same⟩ := ofFields_eq_ok.mp made
    exact ⟨_, made, same⟩
  | classified w _ ih =>
    obtain ⟨r, made, rfl⟩ := ih
    exact ⟨r.classify w, ofFields_classify made, rfl⟩

/-- The last classification decides. -/
theorem classify_classify (w w' : Text) (r : Record) : (r.classify w).classify w' = r.classify w' := by
  have same : (r.fields.map (Field.classify w)).map (Field.classify w') = r.fields.map (Field.classify w') := by
    rw [List.map_map]
    rfl
  simp only [classify, mapFields, same]

theorem classify_foldl (ws : List Text) (w : Text) (r : Record) :
    (ws.foldl (fun s v => s.classify v) r).classify w = r.classify w := by
  induction ws generalizing r with
  | nil => rfl
  | cons v rest ih => rw [List.foldl_cons, ih, classify_classify]

theorem classified_classify (w : Text) (r : Record) :
    List.Forall₂ (Field.Classified w) r.fields (r.classify w).fields :=
  List.forall₂_map_right_iff.mpr (List.forall₂_same.mpr fun f _ => f.classified_classify w)

/-- A classified field is optional exactly if it is not required. -/
theorem fieldsOf_optional (classified : r.isClassified = true) :
    r.fieldsOf .optional = r.fields.filter fun f => !(f.kind? == some .required) := by
  refine List.filter_congr fun f member => ?_
  obtain ⟨c, given⟩ := Option.isSome_iff_exists.mp (List.all_eq_true.mp classified f member)
  rw [Field.kind?, given, Option.map_some]
  cases c.kind <;> decide

theorem parted_of_classified (classified : r.isClassified = true) : r.Parted where
  required := List.filter_sublist
  optional := List.filter_sublist
  disjoint f here there := by
    have required := (List.mem_filter.mp here).2
    have optional := (List.mem_filter.mp there).2
    rw [beq_iff_eq] at required optional
    cases required.symm.trans optional
  together := by
    rw [fieldsOf_optional classified]
    exact List.filter_append_perm _ _

end Record

namespace ClassDecl

variable {c : ClassDecl} {reserved : List Text}

/-- What the fields of a class declaration leave to be checked by a record always passes. -/
theorem ofFields_of_fields {fs : List Field} (collected : c.fields reserved = .ok fs) (some : fs ≠ []) :
    ∃ r, Record.ofFields c.name fs c.place = .ok r := by
  obtain ⟨_, distinct, _, gives⟩ := fields_eq_ok.mp collected
  rw [recordNames, FieldDecl.names_of_gives gives] at distinct
  exact ⟨⟨c.name, fs, c.place, some, distinct⟩, Record.ofFields_eq_ok.mpr ⟨some, distinct, rfl, rfl, rfl⟩⟩

theorem ofFields_of_record {r : Record} (made : c.record reserved = .ok r) :
    Record.ofFields c.name r.fields c.place = .ok r := by
  obtain ⟨_, describes⟩ := record_eq_ok_iff.mp made
  exact Record.ofFields_eq_ok.mpr ⟨r.fields_ne, r.distinct, describes.name, describes.place, rfl⟩

theorem Blames.cause_ne_invalidRecord {fault : ShapeFault} (blames : c.Blames reserved fault) (n : Text)
    (cause : RecordCause) : fault.cause ≠ .invalidRecord n cause := by
  cases blames with
  | broken _ _ _ breaks => cases breaks <;> exact nofun
  | _ => exact nofun

end ClassDecl

/-- What is generated for a class has the fields of a record of that class, classified once. -/
theorem Expansion.expand_reached {settings : Settings} {s : Stmt} {e : Expansion} {g : Generated}
    (run : Expansion.expand settings (.stmt s) = .ok e) (generated : e.generated = some g) :
    ∃ c, s.classDecl? = some c ∧ Record.Reached c.name c.place g.record.fields := by
  obtain ⟨c, r, isClass, made, rfl⟩ := of_generated run generated
  exact ⟨c, isClass, .classified _ (.built (ClassDecl.ofFields_of_record made))⟩

/-- Records stay valid without being checked again. Fields that can be reached are at least one, have distinct names
and would be accepted anew; those of an expansion can be reached. Classification keeps a record but for what is said of
its fields, which depends on their types and on the last wrapper only, and it parts them into required and optional
ones. And where the fields of a class are in order, the check of a record that is built of them never fails: no class is
rejected for that reason. -/
theorem Record.reached_valid (name : Text) (place : Pos) (fs : List Field) (r : Record) (ws : List Text) (w : Text)
    (c : ClassDecl) (settings : Settings) :
    (Reached name place fs → fs ≠ [] ∧ (fs.map Field.name).Nodup ∧
        ∃ s, ofFields name fs place = .ok s ∧ s.fields = fs) ∧
      (∀ s e g, Expansion.expand settings (.stmt s) = .ok e → e.generated = some g →
        ∃ d, s.classDecl? = some d ∧ Reached d.name d.place g.record.fields) ∧
      ((r.classify w).name = r.name ∧ (r.classify w).place = r.place ∧
        List.Forall₂ (Field.Classified w) r.fields (r.classify w).fields ∧
        (ws.foldl (fun s v => s.classify v) r).classify w = r.classify w ∧ (r.classify w).Parted) ∧
      (∀ members, c.fields settings.reservedNames = .ok members → members ≠ [] →
        ∃ s, ofFields c.name members c.place = .ok s) ∧
      ∀ fault, c.record settings.reservedNames = .error fault → ∀ n cause, fault.cause ≠ .invalidRecord n cause := by
  refine ⟨fun reached => ?_, fun _ _ _ => Expansion.expand_reached, ?_, fun _ => ClassDecl.ofFields_of_fields,
    fun _ rejected => (ClassDecl.record_eq_error.mp rejected).cause_ne_invalidRecord⟩
  · obtain ⟨s, made, same⟩ := reached.accepted
    obtain ⟨nonempty, distinct, -⟩ := ofFields_eq_ok.mp made
    exact ⟨nonempty, distinct, s, made, same⟩
  · exact ⟨rfl, rfl, r.classified_classify w, classify_foldl ws w r,
      parted_of_classified (r.classify_isClassified w)⟩

/-- Two fields, the first of them wrapped in `Maybe`. -/
def Record.maybeFields : List Field :=
  [⟨"x", .subscript (.name "Maybe") (.name "int"), ⟨2, 4⟩, none⟩, ⟨"y", .name "int", ⟨3, 4⟩, none⟩]

/-- A class that declares them. -/
def Record.maybeClass : ClassDecl :=
  ⟨⟨1, 0⟩, "P", [], [], [], Record.maybeFields.map fun f =>
    .simple f.place (.annotated (.name f.name) f.place true f.declared none)⟩

/-- These fields are in order for a record, and so they are when they are classified by `Maybe` and then by
`Optional`, which leaves none of them optional. -/
theorem Record.reached_valid_maybe :
    Record.maybeClass.fields [] = .ok Record.maybeFields ∧
      (∃ s, ofFields "P" Record.maybeFields ⟨1, 0⟩ = .ok s) ∧
      ∃ s, ofFields "P" ((Record.maybeFields.map (Field.classify "Maybe")).map (Field.classify "Optional")) ⟨1, 0⟩ =
          .ok s ∧ s.fieldsOf .optional = [] := by
  have collected : Record.maybeClass.fields [] = .ok Record.maybeFields := rfl
  have valid (fs : List Field) (r : Record) :=
    reached_valid "P" ⟨1, 0⟩ fs r ["Maybe"] "Optional" Record.maybeClass Settings.default
  obtain ⟨r, made⟩ : ∃ s, ofFields "P" Record.maybeFields ⟨1, 0⟩ = .ok s :=
    (valid [] ⟨"P", Record.maybeFields, ⟨1, 0⟩, List.cons_ne_nil _ _, by decide⟩).2.2.2.1 _ collected
      (List.cons_ne_nil _ _)
  obtain ⟨-, -, s, again, same⟩ := (valid _ r).1 (.classified "Optional" (.classified "Maybe" (.built made)))
  refine ⟨collected, ⟨r, made⟩, s, again, ?_⟩
  rw [fieldsOf, same]
  rfl

end FluentRecords
