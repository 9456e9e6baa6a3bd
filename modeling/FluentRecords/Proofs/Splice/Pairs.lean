import FluentRecords.Proofs.Builder.Storage
import FluentRecords.Proofs.Splice.Residue
import FluentRecords.Proofs.Syntax.DeclarationOrder

/-!
Records and their builders in a spliced module. Where nothing is wrong, only classes of the module itself are
annotated, and as a module is parsed from its start to its end, their requests are answered in the order in
which they stand; so the expansions come one by one with the pairs of a record and its builder.
-/

namespace FluentRecords

variable {settings : Settings} {m : Module} {es : List Expansion}

/-- A class makes its request with the first of its activation decorators. -/
theorem Request.ofStmt?_classDef {activation : Text} (topLevel : Bool) (place : Pos) (name : Text)
    (bases : List Expr) (keywords : List Keyword) {before after : List Decorator} {d : Decorator}
    (body : List Stmt) (first : ∀ other ∈ before, other.expr.isActivation activation = false)
    (activates : d.expr.isActivation activation = true) :
    ofStmt? activation topLevel (.classDef place name bases keywords (before ++ d :: after) body) =
      some ⟨.classDef place name bases keywords (before ++ d :: after) body, name, d, topLevel⟩ := by
  have found : (before ++ d :: after).find? (·.expr.isActivation activation) = some d :=
    List.find?_eq_some_iff_append.mpr ⟨activates, before, after, rfl, fun other member => by
      rw [first other member]
      rfl⟩
  rw [ofStmt?, Stmt.declaredName?, Stmt.decorators, found]
  rfl

/-- A statement without an activation decorator makes no request. -/
theorem Request.ofStmt?_of_plain {activation : Text} (topLevel : Bool) {s : Stmt}
    (plain : ∀ d ∈ s.decorators, d.expr.isActivation activation = false) : ofStmt? activation topLevel s = none := by
  rw [← Option.not_isSome_iff_eq_none, isSome_ofStmt?, Stmt.isAnnotated_eq_false.mpr plain]
  exact Bool.false_ne_true

/-- Requests that are expanded without an error are made by classes of the module itself. -/
theorem Request.of_clean {r : Request} {e : Expansion} (run : r.expand settings = .ok e)
    (clean : e.hasErrors = false) : r.stmt.isClass = true ∧ r.topLevel = true :=
  ⟨(Request.expand_clean run clean).1, (Request.expand_accepted run clean).1⟩

/-- Where every request of a parsed module is expanded without an error, the requests are those of its
statements, in the order in which these stand. -/
theorem Module.requests_of_clean (ordered : m.body.Pairwise Stmt.ClassesInOrder)
    (expanded : m.expandAll settings = .ok es) (clean : ∀ e ∈ es, e.hasErrors = false) :
    m.requests settings.activationName.val =
      m.body.filterMap (Request.ofStmt? settings.activationName.val true) := by
  have own : m.body.flatMap (Request.ofTopLevel settings.activationName.val) =
      m.body.filterMap (Request.ofStmt? settings.activationName.val true) := by
    rw [List.filterMap_eq_flatMap_toList]
    refine List.flatMap_congr fun s member => ?_
    have quiet : s.within.filterMap (Request.ofStmt? settings.activationName.val false) = [] := by
      refine List.filterMap_eq_nil_iff.mpr fun t inside => ?_
      have plain := Module.within_quiet expanded clean member inside
      rwa [← Request.isSome_ofStmt? _ false, Option.isSome_eq_false_iff, Option.isNone_iff_eq_none] at plain
    rw [Request.ofTopLevel, quiet, List.append_nil]
  have isClass : ∀ s ∈ m.body, ∀ r, Request.ofStmt? settings.activationName.val true s = some r →
      r.stmt = s ∧ s.isClass = true := by
    intro s member r requested
    obtain ⟨e, listed, run⟩ := mapM_ok_mem expanded (Request.mem_requests member requested)
    have same := (Request.ofStmt?_eq_some requested).1
    exact ⟨same, same ▸ (Request.of_clean run (clean e listed)).1⟩
  rw [Module.requests, own]
  refine List.mergeSort_of_pairwise (List.pairwise_filterMap.mpr ?_)
  refine ordered.imp_of_mem fun {s t} here there inOrder r requested r' requested' => ?_
  obtain ⟨same, first⟩ := isClass s here r requested
  obtain ⟨same', second⟩ := isClass t there r' requested'
  exact Request.before_iff_atMost.mpr (same ▸ same' ▸ inOrder first second)

/-- Statements in front of the import make no requests. -/
theorem Module.ofStmt?_preamble {activation : Text} {topLevel : Bool} {s : Stmt}
    (member : s ∈ m.body.take m.importIndex) : Request.ofStmt? activation topLevel s = none := by
  have inside : s ∈ stmtsWithin (m.body.take m.importIndex) := by
    rw [stmtsWithin_eq_flatMap]
    exact List.mem_flatMap.mpr ⟨s, member, List.mem_cons_self⟩
  have bare : s.decorators = [] := m.undecorated_preamble s inside
  refine Request.ofStmt?_of_plain topLevel fun d decorates => ?_
  rw [bare] at decorates
  cases decorates

/-- The name of a method that takes one value. -/
def Stmt.setterName? : Stmt → Option Text
  | .functionDef _ _ n (.mk [] [_, _] none [] none) _ _ _ => some n
  | _ => none

/-- The setters of a class, in their order. -/
def ClassDecl.setterNames (c : ClassDecl) : List Text :=
  c.body.filterMap Stmt.setterName?

theorem Emission.setterNames_builderClass (b : BuilderShape) (settings : Settings) :
    (builderClass b settings).setterNames = b.slots.map Slot.field := by
  have setters : (b.slots.map (setter b.builder)).filterMap Stmt.setterName? = b.slots.map Slot.field := by
    rw [List.filterMap_map, ← List.filterMap_eq_map]
    rfl
  rw [ClassDecl.setterNames, builderClass_body]
  change (b.slots.map (setter b.builder) ++ [finalizer b settings]).filterMap Stmt.setterName? = _
  rw [List.filterMap_append, setters]
  exact List.append_nil _

/-- The two classes that take the place of a record: the record itself, and directly behind it its builder. -/
def Splice.pair? : List Stmt → Option (ClassDecl × ClassDecl)
  | [record, builder] =>
    match record.classDecl?, builder.classDecl? with
    | some record, some builder => some (record, builder)
    | _, _ => none
  | _ => none

/-- An expansion that has the names of a record, of its builder and of the setters of the builder. -/
structure Expansion.Presents (e : Expansion) (pair : ClassDecl × ClassDecl) : Prop where
  record : e.name = some pair.1.name
  builder : e.generated.map (·.builder.name) = some pair.2.name
  setters : e.generated.map (·.record.names) = some pair.2.setterNames

theorem Request.presents {r : Request} {e : Expansion} {g : Generated} {record : ClassDecl}
    (named : r.stmt.declaredName? = some r.name) (run : r.expand settings = .ok e)
    (generated : e.generated = some g) (same : record.name = r.name) : e.Presents (record, g.builder) := by
  cases Request.expand_decided named run with
  | refused error => cases generated
  | @complete inner own classified =>
    cases generated
    refine ⟨congrArg some same.symm, rfl, congrArg some ?_⟩
    exact ((Emission.setterNames_builderClass _ _).trans (BuilderShape.ofRecord_fields _ _)).symm

/-- The expansions come one by one with the pairs of records and builders. -/
theorem Splice.presents_of_replaced {all : List Expansion} {ss : List Stmt} {parts : List (List Stmt)}
    (replaced : List.Forall₂ (Splice.Replaced settings all) ss parts)
    (answered : List.Forall₂ (fun r e => r.expand settings = .ok e)
      (ss.filterMap (Request.ofStmt? settings.activationName.val true)) es) :
    List.Forall₂ Expansion.Presents es (parts.filterMap Splice.pair?) := by
  induction replaced generalizing es with
  | nil =>
    cases answered
    exact .nil
  | @cons s part ss parts first others ih =>
    cases first with
    | kept plain =>
      rw [List.filterMap_cons_none (Request.ofStmt?_of_plain true plain)] at answered
      exact ih answered
    | @record place name bases keywords before after d body e g first activates expanded listed generated =>
      rw [List.filterMap_cons_some
        (Request.ofStmt?_classDef true place name bases keywords body first activates)] at answered
      cases answered with
      | cons run rest =>
        cases expanded.symm.trans run
        exact .cons (Request.presents rfl run generated rfl) (ih rest)

/-- A parsed module in which nothing is wrong stays as it was if there are no requests in it; otherwise its
statements are replaced one by one, and the expansions come one by one with the pairs that take the place of
records. -/
theorem Module.splice_presents {s : Splice} (ordered : m.body.Pairwise Stmt.ClassesInOrder)
    (run : m.splice settings = .ok s) (clean : s.hasErrors = false) :
    s = ⟨m, []⟩ ∨ s.expansions ≠ [] ∧ ∃ parts,
      s.module.body = m.body.take m.importIndex ++ Emission.supportImport :: parts.flatten ∧
      List.Forall₂ (Splice.Replaced settings s.expansions) (m.body.drop m.importIndex) parts ∧
      List.Forall₂ Expansion.Presents s.expansions (parts.filterMap Splice.pair?) := by
  have expanded := Module.splice_expansions run
  have fine := Splice.each_clean clean
  obtain ⟨same, again, _, quiet | ⟨some, parts, body, replaced⟩⟩ := Module.splice_of_clean expanded fine
  · cases run.symm.trans again
    exact Or.inl quiet
  · cases run.symm.trans again
    refine Or.inr ⟨some, parts, body, replaced, Splice.presents_of_replaced replaced ?_⟩
    have before : (m.body.take m.importIndex).filterMap (Request.ofStmt? settings.activationName.val true) = [] :=
      List.filterMap_eq_nil_iff.mpr fun s member => Module.ofStmt?_preamble member
    have requests := Module.requests_of_clean ordered expanded fine
    rw [← List.take_append_drop m.importIndex m.body, List.filterMap_append, before, List.nil_append] at requests
    rw [← requests]
    exact mapM_eq_ok.mp expanded

end FluentRecords
