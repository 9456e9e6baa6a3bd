import FluentRecords.Proofs.Record.Layout
import FluentRecords.Proofs.Syntax.Headings

/-!
The names of what is generated. A class of a parsed module is called by an identifier, and so is its builder, since a
suffix only goes on with one. The names of the factory and of the finalizer are legal as they are given. What may happen
is that the name of the builder, or that of a setter, is a reserved word; and exactly then the definition cannot be
read.
-/

namespace FluentRecords

/-- The definitions among what is generated: the builder, the factory, and the functions in the builder. -/
def Generated.definitions (g : Generated) : List Stmt :=
  g.builder.stmt :: g.factory :: g.builder.body.filter fun s => s.declaredName?.isSome

/-- Wherever a definition is printed, the line with its name is read back as the heading of a definition of that name,
exactly if the name is legal. -/
def Stmt.ReadsBack (s : Stmt) (n : Text) : Prop :=
  ∀ depth ls, s.lines depth = .ok ls → ∃ line, indentLine depth line ∈ ls ∧ (line.Heads n ↔ Text.isLegalName n = true)

theorem Stmt.Declares.readsBack {s : Stmt} {word n : Text} (declares : s.Declares word n)
    (identifier : Text.isIdentifier n = true) : s.ReadsBack n := by
  intro depth ls printed
  obtain ⟨sep, tail, closes, line⟩ := declares.heading printed
  exact ⟨_, line, heads_iff declares.word_mem identifier closes⟩

theorem Text.isIdentifier_of_isLegalName {n : Text} (legal : isLegalName n = true) : isIdentifier n = true :=
  (Bool.and_eq_true_iff.mp legal).1

/-- Names that statements of a parsed module give are identifiers. -/
theorem Module.isIdentifier_of_parse {source : Text} {m : Module} (parsed : Module.parse source = .ok m) {s : Stmt}
    (inside : s ∈ stmtsWithin m.body) {n : Text} (given : n ∈ s.names) : Text.isIdentifier n = true := by
  obtain ⟨word, legal, rfl⟩ := names_of_parse parsed inside given
  exact Text.isIdentifier_normalize (Text.isIdentifier_of_isLegalName legal)

theorem Stmt.mem_names_of_target {s : Stmt} {d : FieldDecl} {n : Text} (annotates : s.fieldDecl? = some d)
    (named : d.target = .name n) : n ∈ s.names := by
  refine List.mem_append_right _ (Option.mem_toList.mpr ?_)
  exact Option.bind_eq_some_iff.mpr ⟨d, annotates, FieldDecl.name?_eq_some.mpr named⟩

section Class

variable {source : Text} {m : Module} {s : Stmt} {c : ClassDecl}

/-- Classes of a parsed module are called by identifiers. -/
theorem ClassDecl.isIdentifier_name (parsed : Module.parse source = .ok m) (inside : s ∈ stmtsWithin m.body)
    (isClass : s.classDecl? = some c) : Text.isIdentifier c.name = true := by
  refine Module.isIdentifier_of_parse parsed inside (List.mem_append_left _ (Option.mem_toList.mpr ?_))
  cases s <;> cases isClass
  rfl

/-- So are the fields of the record that such a class has. -/
theorem ClassDecl.isIdentifier_field {reserved : List Text} {r : Record} (parsed : Module.parse source = .ok m)
    (inside : s ∈ stmtsWithin m.body) (isClass : s.classDecl? = some c) (made : c.record reserved = .ok r) :
    ∀ n ∈ r.names, Text.isIdentifier n = true := by
  intro n named
  rw [Record.names, ← FieldDecl.names_of_gives (record_eq_ok_iff.mp made).2.fields] at named
  obtain ⟨d, declared, named⟩ := List.mem_filterMap.mp named
  obtain ⟨t, member, annotates⟩ := List.mem_filterMap.mp (List.mem_of_mem_filter declared)
  refine Module.isIdentifier_of_parse parsed (s := t) ?_
    (Stmt.mem_names_of_target annotates (FieldDecl.name?_eq_some.mp named))
  refine (stmtsWithin_perm m.body).mem_iff.mpr (List.mem_append_right _ (List.mem_flatMap.mpr ⟨s, inside, ?_⟩))
  cases s <;> cases isClass
  exact member

end Class

theorem Settings.isIdentifier_builderName {n : Text} (settings : Settings) (identifier : Text.isIdentifier n = true) :
    Text.isIdentifier (settings.builderName n) = true :=
  Text.isIdentifier_append identifier (List.all_eq_true.mpr (Text.isContinue_of_mem_suffix settings.builderSuffix))

/-- The names of the definitions that are generated for a record, and these definitions. -/
theorem Generated.forall₂_definitions (r : Record) (settings : Settings) :
    List.Forall₂ (fun n s => ∃ word, s.Declares word n)
      (settings.builderName r.name :: settings.factoryName.val :: "__init__" ::
        (r.names ++ [settings.finalizerName.val])) (ofRecord r settings).definitions := by
  let b := BuilderShape.ofRecord r (settings.builderName r.name)
  have setters : List.Forall₂ (fun n s => ∃ word, s.Declares word n) r.names
      (b.slots.map (Emission.setter b.builder)) := by
    refine List.forall₂_map_left_iff.mpr (List.forall₂_map_right_iff.mpr (List.forall₂_map_right_iff.mpr ?_))
    refine List.forall₂_same.mpr fun f _ => ⟨"def", ?_⟩
    rw [← f.slot_field]
    exact .functionDef
  let functions := Emission.init b :: (b.slots.map (Emission.setter b.builder) ++ [Emission.finalizer b settings])
  have each : ∀ s ∈ functions, s.declaredName?.isSome = true := by
    intro s member
    simp only [functions, List.mem_cons, List.mem_append, List.mem_map, List.not_mem_nil, or_false] at member
    obtain rfl | ⟨_, _, rfl⟩ | rfl := member <;> rfl
  -- The docstring and the slots of the builder declare no name, and all else in it does.
  have declared : (ofRecord r settings).builder.body.filter (fun s => s.declaredName?.isSome) = functions :=
    List.filter_eq_self.mpr each
  rw [definitions, declared]
  exact .cons ⟨_, .classDef⟩ (.cons ⟨_, .functionDef⟩ (.cons ⟨_, .functionDef⟩
    (List.rel_append setters (.cons ⟨_, .functionDef⟩ .nil))))

/-- What is generated for a class of a parsed module is called by identifiers. The factory and the finalizer have the
legal names that were given for them, and the name of the builder is legal unless it is a reserved word. These are the
names of the definitions, beside those of the initializer and of the setters, and each definition is read back where it
is printed exactly if its name is legal. -/
theorem Module.definitions_named {source : Text} {m : Module} {s : Stmt} {c : ClassDecl}
    (parsed : Module.parse source = .ok m) (inside : s ∈ stmtsWithin m.body) (isClass : s.classDecl? = some c)
    (settings : Settings) :
    (Text.isIdentifier (settings.builderName c.name) = true ∧
      (Text.isLegalName (settings.builderName c.name) = true ↔ Text.isKeyword (settings.builderName c.name) = false)) ∧
      Text.isLegalName settings.factoryName.val = true ∧ Text.isLegalName settings.finalizerName.val = true ∧
      ∀ e g, Expansion.expand settings (.stmt s) = .ok e → e.generated = some g →
        List.Forall₂ (fun n d => Text.isIdentifier n = true ∧ d.declaredName? = some n ∧ d.ReadsBack n)
          (settings.builderName c.name :: settings.factoryName.val :: "__init__" ::
            (g.record.names ++ [settings.finalizerName.val])) g.definitions := by
  have named := ClassDecl.isIdentifier_name parsed inside isClass
  have builder := settings.isIdentifier_builderName named
  have factory := Text.isIdentifier_of_isLegalName settings.factoryName.property
  have finalizer := Text.isIdentifier_of_isLegalName settings.finalizerName.property
  refine ⟨⟨builder, ?_⟩, settings.factoryName.property, settings.finalizerName.property, fun e g run generated => ?_⟩
  · rw [Text.isLegalName, builder, Bool.true_and, Bool.not_eq_true']
  · obtain ⟨d, r, again, made, rfl⟩ := Expansion.of_generated run generated
    cases isClass.symm.trans again
    have fields := ClassDecl.isIdentifier_field parsed inside isClass made
    have called : (r.classify settings.wrapperName.val).name = c.name := (ClassDecl.record_eq_ok_iff.mp made).2.name
    have definitions := Generated.forall₂_definitions (r.classify settings.wrapperName.val) settings
    rw [called] at definitions
    have each : ∀ n ∈ settings.builderName c.name :: settings.factoryName.val :: "__init__" ::
        ((r.classify settings.wrapperName.val).names ++ [settings.finalizerName.val]), Text.isIdentifier n = true := by
      have own : Text.isIdentifier (Text.ofString "__init__") = true := by decide
      simp only [List.forall_mem_cons, List.forall_mem_append, Record.classify_names]
      exact ⟨builder, factory, own, fields, finalizer, List.forall_mem_nil _⟩
    refine ((List.forall₂_and_left _ _).mpr ⟨each, definitions⟩).imp ?_
    rintro n d ⟨identifier, word, declares⟩
    exact ⟨identifier, declares.declaredName?, declares.readsBack identifier⟩

/-- The usual settings, but for the suffix. -/
def Settings.suffixed (suffix : Suffix) : Settings :=
  { default with builderSuffix := suffix }

/-- A class in another one, with a suffix that is no identifier by itself. -/
theorem Module.definitions_named_inner : ∃ m s c e g,
    Module.parse "class A:\n class B:\n  x: int\n" = .ok m ∧ s ∈ stmtsWithin m.body ∧ s.classDecl? = some c ∧
      Expansion.expand (.suffixed ⟨"2", by decide⟩) (.stmt s) = .ok e ∧ e.generated = some g ∧
      List.Forall₂ (fun n d => Text.isIdentifier n = true ∧ d.declaredName? = some n ∧ d.ReadsBack n)
        [Text.ofString "B2", "builder", "__init__", "x", "build"] g.definitions := by
  have fine : ((Module.parse "class A:\n class B:\n  x: int\n").toOption.any fun m =>
      (stmtsWithin m.body).any fun s => s.classDecl?.any fun c =>
        (Expansion.expand (.suffixed ⟨"2", by decide⟩) (.stmt s)).toOption.any fun e => e.generated.any fun g =>
          decide (c.name = "B" ∧ g.record.names = [Text.ofString "x"])) = true := by decide +kernel
  obtain ⟨m, parsed, some⟩ := exists_of_toOption_any fine
  obtain ⟨s, inside, some⟩ := List.any_eq_true.mp some
  obtain ⟨c, isClass, some⟩ := (Option.any_eq_true _ _).mp some
  obtain ⟨e, run, some⟩ := exists_of_toOption_any some
  obtain ⟨g, generated, names⟩ := (Option.any_eq_true _ _).mp some
  obtain ⟨called, names⟩ := of_decide_eq_true names
  have named := (definitions_named parsed inside isClass (.suffixed ⟨"2", by decide⟩)).2.2.2 e g run generated
  rw [called, names] at named
  exact ⟨m, s, c, e, g, parsed, inside, isClass, run, generated, named⟩

/-- With a suffix that completes a reserved word, the builder is called by it, and what is printed of it is no
module. -/
theorem builder_reserved : ∃ m s e g t,
    Module.parse "class N:\n x: int\n" = .ok m ∧ s ∈ m.body ∧
      Expansion.expand (.suffixed ⟨"one", by decide⟩) (.stmt s) = .ok e ∧ e.generated = some g ∧
      g.builder.name = "None" ∧ Text.isLegalName g.builder.name = false ∧ g.builder.stmt.text = .ok t ∧
      ∀ m', Module.parse t ≠ .ok m' := by
  have fine : ((Module.parse "class N:\n x: int\n").toOption.any fun m => m.body.any fun s =>
      (Expansion.expand (.suffixed ⟨"one", by decide⟩) (.stmt s)).toOption.any fun e => e.generated.any fun g =>
        g.builder.stmt.text.toOption.any fun t =>
          decide (g.builder.name = "None" ∧ Text.isLegalName g.builder.name = false) &&
            (Module.parse t).toOption.isNone) = true := by decide +kernel
  obtain ⟨m, parsed, some⟩ := exists_of_toOption_any fine
  obtain ⟨s, inside, some⟩ := List.any_eq_true.mp some
  obtain ⟨e, run, some⟩ := exists_of_toOption_any some
  obtain ⟨g, generated, some⟩ := (Option.any_eq_true _ _).mp some
  obtain ⟨t, printed, some⟩ := exists_of_toOption_any some
  obtain ⟨named, refused⟩ := Bool.and_eq_true_iff.mp some
  obtain ⟨reserved, illegal⟩ := of_decide_eq_true named
  refine ⟨m, s, e, g, t, parsed, inside, run, generated, reserved, illegal, printed, fun m' again => ?_⟩
  rw [again] at refused
  cases refused

end FluentRecords
