import FluentRecords.Expansion
import FluentRecords.Proofs.Record.Acceptance

/-!
How an expansion ends. There is a record if and only if a class has one, and then something is generated for it, under
names that have passed all checks; if there is none, the reason is reported, and nothing else is.
-/

namespace FluentRecords

theorem Declaration.record_eq_ok_iff {d : Declaration} {reserved : List Text} {r : Record} :
    d.record reserved = .ok r ↔ ∃ c, d.classDecl? = some c ∧ c.record reserved = .ok r := by
  unfold Declaration.record
  cases d.classDecl? with
  | none => simp
  | some c => simp

theorem Declaration.record_names {d : Declaration} {reserved : List Text} {r : Record}
    (accepted : d.record reserved = .ok r) : FieldNames reserved r.names := by
  obtain ⟨c, _, made⟩ := record_eq_ok_iff.mp accepted
  obtain ⟨shaped, describes⟩ := ClassDecl.record_eq_ok_iff.mp made
  rw [Record.names, ← FieldDecl.names_of_gives describes.fields]
  exact shaped.names

theorem Record.classify_names (wrapper : Text) (r : Record) : (r.classify wrapper).names = r.names := by
  simp only [Record.names, Record.classify, Record.mapFields, List.map_map]
  rfl

theorem Record.classify_isClassified (wrapper : Text) (r : Record) : (r.classify wrapper).isClassified = true := by
  rw [Record.isClassified, List.all_eq_true]
  intro f member
  obtain ⟨_, _, rfl⟩ := List.mem_map.mp member
  rfl

/-- How an expansion ends: with what is generated for the classified record and nothing that is reported, or with
nothing that is generated and one error, which tells why there is no record. -/
inductive Expansion.Ends (settings : Settings) (d : Declaration) : Expansion → Prop
  | generated {r : Record} (accepted : d.record settings.reservedNames = .ok r) :
    Ends settings d ⟨d.name?, some (.ofRecord (r.classify settings.wrapperName.val) settings), []⟩
  | rejected {f : ShapeFault} {message : Text} (rejected : d.record settings.reservedNames = .error f)
    (told : f.cause.message = .ok message) : Ends settings d ⟨d.name?, none, [.errorAt f.place message]⟩

namespace Expansion

variable {settings : Settings} {d : Declaration} {e : Expansion} {g : Generated}

theorem ends_of_expand (run : Expansion.expand settings d = .ok e) : e.Ends settings d := by
  unfold Expansion.expand at run
  split at run
  · rename_i f rejected
    obtain ⟨diagnostic, described, ended⟩ := bind_eq_ok.mp run
    obtain ⟨message, told, same⟩ := bind_eq_ok.mp described
    cases same
    cases ended
    exact .rejected rejected told
  · rename_i r accepted
    obtain ⟨_, _, ended⟩ := bind_eq_ok.mp run
    cases ended
    exact .generated accepted

/-- An expansion that generates something does so for a classified record whose names have passed all
checks. -/
theorem expand_generated (run : Expansion.expand settings d = .ok e) (generated : e.generated = some g) :
    g = .ofRecord g.record settings ∧ FieldNames settings.reservedNames g.record.names := by
  cases ends_of_expand run with
  | rejected => cases generated
  | @generated r accepted =>
    cases generated
    refine ⟨rfl, ?_⟩
    change FieldNames settings.reservedNames (r.classify settings.wrapperName.val).names
    rw [Record.classify_names]
    exact Declaration.record_names accepted

/-- What an expansion generates for a statement is for the record of the class that the statement is. -/
theorem of_generated {s : Stmt} (run : Expansion.expand settings (.stmt s) = .ok e) (generated : e.generated = some g) :
    ∃ c r, s.classDecl? = some c ∧ c.record settings.reservedNames = .ok r ∧
      g = .ofRecord (r.classify settings.wrapperName.val) settings := by
  cases ends_of_expand run with
  | rejected => cases generated
  | @generated r accepted =>
    cases generated
    obtain ⟨c, isClass, made⟩ := Declaration.record_eq_ok_iff.mp accepted
    exact ⟨c, r, isClass, made, rfl⟩

/-- An expansion without an error is one of a class, and something was generated for it. -/
theorem expand_clean {s : Stmt} (run : Expansion.expand settings (.stmt s) = .ok e) (clean : e.hasErrors = false) :
    s.classDecl?.isSome = true ∧ e.generated.isSome = true := by
  cases ends_of_expand run with
  | rejected => cases clean
  | generated accepted =>
    obtain ⟨c, isClass, _⟩ := Declaration.record_eq_ok_iff.mp accepted
    exact ⟨Option.isSome_iff_exists.mpr ⟨c, isClass⟩, rfl⟩

end Expansion

end FluentRecords
