import FluentRecords.Activation.Request
import FluentRecords.Loading.Probe
import FluentRecords.Proofs.Loading.Excerpt
import FluentRecords.Proofs.Loading.Run
import FluentRecords.Proofs.Outcome
import FluentRecords.Proofs.Record.Correspondence
import FluentRecords.Proofs.Record.Layout
import FluentRecords.Proofs.Record.Offences

/-!
Classes that are rejected while a module runs. What is wrong with a class is found in its excerpt, which is read on its
own, and reported at the place of the module that the excerpt was taken from.
-/

namespace FluentRecords

namespace Load

variable {α β : Type} {x : Load α} {k : α → Load β} {w w' w'' : World} {a : α} {f : LoadFault}

/-- A part of a run ends with a fault. -/
def Throws (x : Load α) (w : World) (f : LoadFault) (w' : World) : Prop :=
  x.run w = (.error f, w')

theorem throws_throw : (throw f : Load α).Throws w f w :=
  rfl

theorem Throws.bind (first : x.Throws w f w') : (x >>= k).Throws w f w' := by
  unfold Throws ExceptT.run at first ⊢
  simp only [Bind.bind, ExceptT.bind, ExceptT.mk, StateT.bind, first]
  rfl

theorem Gives.bind_throws (first : x.Gives w a w') (next : (k a).Throws w' f w'') : (x >>= k).Throws w f w'' := by
  unfold Gives ExceptT.run at first
  unfold Throws ExceptT.run at next ⊢
  simp only [Bind.bind, ExceptT.bind, ExceptT.mk, StateT.bind, first]
  exact next

end Load

open Load Loading

/-- Expressions that differ in their layout at most. If the first one has a text, so does the second. -/
structure Expr.Alike (e e' : Expr) : Prop where
  bare : e.bare = e'.bare
  told : (∃ t, e.text = .ok t) → ∃ t, e'.text = .ok t

theorem Expr.bare_eq_name {e : Expr} {n : Text} : e.bare = .name n ↔ e = .name n := by
  constructor
  · intro same
    cases e with
    | name m => exact same
    | _ => cases same
  · rintro rfl
    rfl

theorem Expr.likeness_alike : Expr.Likeness Expr.Alike :=
  .of_eq (fun _ _ => Alike.bare) (fun _ _ => bare_eq_name) isMarker_bare

variable {E : Expr → Expr → Prop} {R : Pos → Pos → Prop}

theorem ShapeCause.Same.told {cause cause' : ShapeCause} (same : cause.Same Expr.Alike R cause')
    (told : ∃ m, cause.message = .ok m) : ∃ m, cause'.message = .ok m := by
  rw [ShapeCause.message_ok_iff] at told ⊢
  cases same with
  | same => exact told
  | unnamedField record alike =>
    rintro _ _ ⟨⟩
    exact alike.told (told _ _ rfl)
  | repeatedField => exact fun _ _ differs => by cases differs

/-- If a class is rejected, one that corresponds to it is, at the place that corresponds. -/
theorem ClassDecl.Same.rejected {c c' : ClassDecl} {settings : Settings} {e : Expansion}
    (same : c.Same Expr.Alike R c') (run : Expansion.expand settings (.stmt c.stmt) = .ok e)
    (none : e.generated = none) :
    ∃ p p' m m', R p p' ∧ e.diagnostics = [.errorAt p m] ∧
      Expansion.expand settings (.stmt c'.stmt) = .ok ⟨some c'.name, Option.none, [.errorAt p' m']⟩ := by
  have read : EndAlike _ _ (Declaration.record (.stmt c.stmt) settings.reservedNames)
    (Declaration.record (.stmt c'.stmt) settings.reservedNames) :=
    same.record Expr.likeness_alike settings.reservedNames
  unfold Expansion.expand at run ⊢
  generalize Declaration.record (.stmt c.stmt) settings.reservedNames = first at read run
  generalize Declaration.record (.stmt c'.stmt) settings.reservedNames = second at read
  cases read with
  | @error fault fault' fault_same =>
    obtain ⟨d, described, ended⟩ := bind_eq_ok.mp run
    obtain ⟨m, told, place⟩ := bind_eq_ok.mp described
    cases ended
    cases place
    obtain ⟨m', told'⟩ := fault_same.cause.told ⟨m, told⟩
    have described' : Diagnostic.ofShape fault' = .ok (.errorAt fault'.place m') := bind_eq_ok.mpr ⟨m', told', rfl⟩
    exact ⟨_, _, m, m', fault_same.place, rfl, bind_eq_ok.mpr ⟨_, described', rfl⟩⟩
  | ok =>
    obtain ⟨_, _, ended⟩ := bind_eq_ok.mp run
    cases ended
    cases none

/-- Places of which the first stands some lines and columns further on. -/
def Pos.Further (lines columns : Nat) (p p' : Pos) : Prop :=
  p.line = p'.line + lines ∧ p.column = p'.column + columns

/-- The source of a class, read alone, declares a class that corresponds to one of the module. -/
def ClassSource.Reads (source : ClassSource) (E : Expr → Expr → Prop) (R : Pos → Pos → Prop) (c : ClassDecl) : Prop :=
  ∃ c', Module.parse source.text = .ok ⟨[c'.stmt]⟩ ∧ c.Same E R c'

/-- What applies the activation decorator under settings: the decorator itself, or what a call of it gives. -/
inductive Activates : Settings → Thing → Prop
  | bare : Activates .default (.tool .derive)
  | called (settings : Settings) : Activates settings (.activation (.settings settings))

namespace Derive

variable {w : World} {o : ClassObject} {source : ClassSource} {settings : Settings} {f : LoadFault} {id : Nat}

theorem declaration_of_parse {c : ClassDecl} (found : ClassSource.find? w.source w.module o.path = some source)
    (parsed : Module.parse source.text = .ok ⟨[c.stmt]⟩) (name : c.name = o.name) :
    (declaration o).Gives w (source, c.stmt) w := by
  have isClass : (some c.name == some o.name) = true := by rw [name, beq_self_eq_true]
  have first : [c.stmt].find? (fun s => (s.classDecl?.map (·.name)) == some o.name) = some c.stmt :=
    List.find?_cons_of_pos isClass
  unfold declaration
  refine gives_bind.mpr ⟨w, w, rfl, ?_⟩
  rw [found]
  dsimp only
  rw [parsed]
  dsimp only
  rw [first]
  exact gives_pure.mpr ⟨rfl, rfl⟩

theorem generate_throws {s : Stmt} {d : Diagnostic} {name : Option Text}
    (declared : (declaration o).Gives w (source, s) w)
    (run : Expansion.expand settings (.stmt s) = .ok ⟨name, none, [d]⟩) :
    let shifted := d.shifted (source.firstLine - 1 : Nat) source.indentation
    (generate o (.settings settings)).Throws w (.underived (shifted.render (some moduleFile)) (some shifted)) w := by
  intro shifted
  unfold generate
  refine declared.bind_throws ?_
  dsimp only
  rw [run]
  exact throws_throw

theorem deriveClass_throws (present : w.classes[id]? = some o)
    (thrown : (generate o (.settings settings)).Throws w f w) :
    (deriveClass (.settings settings) id).Throws w f w := by
  have here : (get : Load World).Gives w w w := rfl
  unfold deriveClass
  refine here.bind_throws ?_
  rw [present]
  exact thrown.bind

/-- What the activation decorator is applied to a class with is what its builder is derived with. -/
theorem activates_throws {host : Thing} {fuel : Nat} (activates : Activates settings host)
    (thrown : (deriveClass (.settings settings) id).Throws w f w) :
    (callThing (fuel + 2) host [.cls id] []).Throws w f w := by
  have here : (get : Load World).Gives w w w := rfl
  have applied : (apply (.settings settings) (.cls id)).Throws w f w := here.bind_throws thrown
  cases activates with
  | bare =>
    have base : (effective (.settings .default) []).Gives w (.settings .default) w := rfl
    exact base.bind_throws applied
  | called => exact applied

end Derive

/-- Where the source of a class declares what stands in the module, moved up to the first line and left by some columns,
a class that is rejected is reported in its line, and in its column but for what the indentation of the first line
differs by from these columns. -/
theorem ClassSource.Reads.reports {w : World} {o : ClassObject} {source : ClassSource} {c : ClassDecl}
    {settings : Settings} {e : Expansion} {host : Thing} {id columns : Nat}
    (reads : source.Reads Expr.Alike (Pos.Further (source.firstLine - 1) columns) c)
    (found : ClassSource.find? w.source w.module o.path = some source) (present : w.classes[id]? = some o)
    (name : c.name = o.name) (activates : Activates settings host)
    (run : Expansion.expand settings (.stmt c.stmt) = .ok e) (rejected : e.generated = none) :
    ∃ d d', e.diagnostics = [d] ∧ d'.line = d.line ∧ d'.column = d.column + (source.indentation - columns : Int) ∧
      ∀ fuel, (callThing (fuel + 2) host [.cls id] []).Throws w
        (.underived (d'.render (some moduleFile)) (some d')) w := by
  obtain ⟨c', parsed, same⟩ := reads
  obtain ⟨p, p', m, m', ⟨line, column⟩, diagnostics, run'⟩ := same.rejected run rejected
  have declared := Derive.declaration_of_parse found parsed (same.name.symm.trans name)
  have thrown := Derive.deriveClass_throws present (Derive.generate_throws declared run')
  refine ⟨_, _, diagnostics, ?_, ?_, fun fuel => Derive.activates_throws activates thrown⟩
  · simp only [Diagnostic.shifted, Diagnostic.errorAt]
    omega
  · simp only [Diagnostic.shifted, Diagnostic.errorAt]
    omega

/-- A class in a function, with a field that is not supported. Its description has two lines. -/
def describedSource : Text :=
  "from recordbuilder import derive_builder\ndef f():\n    @derive_builder\n    class A:\n        \"\"\"Two\n"
    ++ "        lines.\"\"\"\n        __x: int\nf()\n"

/-- The same class with the second line of its description at the left. -/
def outdentedSource : Text :=
  "from recordbuilder import derive_builder\ndef f():\n    @derive_builder\n    class A:\n        \"\"\"Two\n"
    ++ "lines.\"\"\"\n        __x: int\nf()\n"

/-- Whether a statement is this class, with its keyword and its field at places. -/
def Stmt.isDescribed (whole field : Pos) : Stmt → Bool
  | .classDef p n [] [] _ [.simple _ (.expression (.constant (.str _ false))),
      .simple _ (.annotated (.name x) at' _ (.name type) none)] =>
    n == "A" && p == whole && at' == field && x == "__x" && type == "int"
  | _ => false

theorem Stmt.of_isDescribed {s : Stmt} {whole field : Pos} (holds : s.isDescribed whole field = true) :
    ∃ (c : ClassDecl) (d : FieldDecl), s = c.stmt ∧ c.name = "A" ∧ c.bases = [] ∧ c.place = whole ∧
      c.annotations = [d] ∧ d.target = .name "__x" ∧ d.type = .name "int" ∧ d.targetAt = field := by
  unfold isDescribed at holds
  split at holds
  · simp only [Bool.and_eq_true, beq_iff_eq] at holds
    obtain ⟨⟨⟨⟨rfl, rfl⟩, rfl⟩, rfl⟩, rfl⟩ := holds
    exact ⟨⟨_, _, _, _, _, _⟩, _, rfl, rfl, rfl, rfl, rfl, rfl, rfl, rfl⟩
  · cases holds

/-- Whether the class is rejected where its field stands. -/
def Stmt.isRejectedAt (field : Pos) (s : Stmt) : Bool :=
  (Expansion.expand .default (.stmt s)).toOption.any fun e =>
    e.generated.isNone && e.diagnostics.any fun d => d.line == field.line && d.column == field.column

/-- A module as it runs the function, after the body of the class. -/
def classWorld (source : Text) (m : Module) : World :=
  { World.start source m with classes := [⟨"A", "f.<locals>.A", [], [], [], .none⟩] }

theorem classWorld_source (source : Text) (m : Module) : (classWorld source m).source = source :=
  rfl

def Loading.isMalformed : Except LoadFault World → Bool
  | .error (.malformed _) => true
  | _ => false

/-- Both modules are read and the class is rejected in them. The source of the class is found; it is read again in the
first case. -/
theorem described_checked :
    ((Module.parse describedSource).toOption.any fun m =>
      (stmtsWithin m.body).any (fun s => s.isDescribed ⟨4, 4⟩ ⟨7, 8⟩ && s.isRejectedAt ⟨7, 8⟩) &&
        ClassSource.lineAmong "f.<locals>.A" [] m.body == some 3) = true ∧
    (match ClassSource.blockAt describedSource 3 with
      | [] => false
      | first :: rest => !first.all ClassSource.isBlank && decide (ClassSource.Aligned (first :: rest)) &&
        (ClassSource.margin (first :: rest)).length == 4 &&
        (Module.parse (ClassSource.ofBlock 3 (first :: rest)).text).toOption.any fun m =>
          m.body.length == 1 && m.body.any (Stmt.isDescribed ⟨2, 0⟩ ⟨5, 4⟩)) = true ∧
    ((Module.parse outdentedSource).toOption.any fun m =>
      (stmtsWithin m.body).any fun s => s.isDescribed ⟨4, 4⟩ ⟨7, 8⟩ && s.isRejectedAt ⟨7, 8⟩) = true ∧
    Loading.isMalformed (Loading.run outdentedSource) = true := by
  decide +kernel

theorem Stmt.of_isRejectedAt {s : Stmt} {field : Pos} (holds : s.isRejectedAt field = true) :
    ∃ e d, Expansion.expand .default (.stmt s) = .ok e ∧ e.generated = none ∧ d ∈ e.diagnostics ∧
      d.line = field.line ∧ d.column = field.column := by
  obtain ⟨e, run, fine⟩ := exists_of_toOption_any holds
  obtain ⟨rejected, told⟩ := Bool.and_eq_true_iff.mp fine
  obtain ⟨d, member, place⟩ := List.any_eq_true.mp told
  simp only [Bool.and_eq_true, beq_iff_eq] at place
  exact ⟨e, d, run, Option.isNone_iff_eq_none.mp rejected, member, place.1, place.2⟩

end FluentRecords
