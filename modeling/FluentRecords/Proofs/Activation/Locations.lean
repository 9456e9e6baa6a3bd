import FluentRecords.Proofs.Activation.Arguments
import FluentRecords.Proofs.Activation.Detection
import FluentRecords.Proofs.Record.Offences

/-!
Where requests are reported. What is said about a declaration is found at the declaration itself, in its activation
decorator or at the target of an annotation directly in its body. In a module that was parsed, these are places of
tokens that no other declaration takes up, and none of them is the start of the source.
-/

namespace FluentRecords

open Relation

/-- A place that a statement records itself, or one inside it. -/
def Stmt.Records (s : Stmt) (p : Pos) : Prop :=
  ∃ t, ReflTransGen Stmt.Holds s t ∧ p ∈ t.recorded

/-- A place is in front of everything that a statement records, or behind all of it. -/
def Pos.Outside (p : Pos) (s : Stmt) : Prop :=
  (∀ q, s.Records q → p.Before q) ∨ ∀ q, s.Records q → q.Before p

/-- The places of a request: that of its declaration, those in its decorator, and those of the targets of annotations
directly in its body. -/
inductive Request.Owns (r : Request) : Pos → Prop
  | declaration : Owns r r.stmt.place
  | decorator {p : Pos} (part : p ∈ r.decorator.places) : Owns r p
  | target {s : Stmt} {f : FieldDecl} (inside : s ∈ r.stmt.inner) (annotates : s.fieldDecl? = some f) :
    Owns r f.targetAt

/-! Reports are made at these places, whatever the module. -/

namespace ClassDecl

/-- A class is blamed at its own place or at the target of an annotation in its body. -/
theorem place_of_record_eq_error {c : ClassDecl} {reserved : List Text} {fault : ShapeFault}
    (rejected : c.record reserved = .error fault) :
    fault.place = c.place ∨ ∃ d ∈ c.annotations, fault.place = d.targetAt := by
  cases record_eq_error.mp rejected with
  | enumeration => exact Or.inl rfl
  | broken _ split =>
    rw [split]
    exact Or.inr ⟨_, List.mem_append_right _ List.mem_cons_self, rfl⟩
  | storage _ _ split =>
    rw [split]
    exact Or.inr ⟨_, List.mem_append_right _ List.mem_cons_self, rfl⟩
  | fieldless => exact Or.inl rfl

end ClassDecl

namespace Request

variable {settings : Settings} {r : Request}

theorem owns_of_record_eq_error {reserved : List Text} {fault : ShapeFault}
    (rejected : (Declaration.stmt r.stmt).record reserved = .error fault) : r.Owns fault.place := by
  unfold Declaration.record at rejected
  split at rejected
  case h_1 c declared =>
    obtain same : r.stmt = c.stmt := by
      obtain ⟨stmt, name, d, top⟩ := r
      cases stmt with
      | classDef =>
        cases declared
        rfl
      | _ => cases declared
    rcases ClassDecl.place_of_record_eq_error rejected with own | ⟨d, annotated, own⟩
    · rw [own, show c.place = r.stmt.place from same ▸ rfl]
      exact .declaration
    · obtain ⟨s, member, annotates⟩ := List.mem_filterMap.mp annotated
      rw [own]
      exact .target (show s ∈ r.stmt.inner from same ▸ member) annotates
  case h_2 =>
    cases rejected
    exact .declaration

/-- Whatever is reported about a request is an error at a place of it. -/
theorem owns_of_expand {x : Expansion} {d : Diagnostic} (run : r.expand settings = .ok x)
    (reported : d ∈ x.diagnostics) :
    ∃ p message, d = Diagnostic.errorAt p message ∧ r.Owns p := by
  cases ends_of_expand run with
  | nested => exact ⟨_, _, List.mem_singleton.mp reported, .declaration⟩
  | unset failed => exact ⟨_, _, List.mem_singleton.mp reported, .decorator (Decorator.settings_place failed)⟩
  | expanded _ _ run =>
    cases Expansion.ends_of_expand run with
    | generated => cases reported
    | rejected rejected told => exact ⟨_, _, List.mem_singleton.mp reported, owns_of_record_eq_error rejected⟩

end Request

/-! In a module that was parsed, what statements record is apart. -/

namespace Decorator

theorem mem_recorded {d : Decorator} {k : Keyword} (given : k ∈ d.expr.keywords) :
    k.place ∈ d.recorded ∧ ∀ l ∈ k.value.keywords, l.place ∈ d.recorded :=
  ⟨List.mem_cons_of_mem _ (List.mem_flatMap.mpr ⟨k, given, List.mem_cons_self⟩), fun _ inner =>
    List.mem_cons_of_mem _ (List.mem_flatMap.mpr ⟨k, given, List.mem_cons_of_mem _ (List.mem_map_of_mem inner)⟩)⟩

/-- The parts of a call of the settings are its own. -/
theorem keywords_of_configCall {e : Expr} : ((e.configCall?).getD ([], [])).2 ⊆ e.keywords := by
  unfold Expr.configCall?
  split
  · split
    · exact List.Subset.refl _
    · exact List.nil_subset _
  · split
    · exact List.Subset.refl _
    · exact List.nil_subset _
  · exact List.nil_subset _

theorem places_subset_recorded (d : Decorator) : d.places ⊆ d.recorded := by
  obtain ⟨place, e⟩ := d
  intro p member
  rcases List.mem_cons.mp member with rfl | argument
  · exact List.mem_cons_self
  obtain ⟨l, listed, part⟩ := List.mem_flatMap.mp argument
  cases e with
  | call f args keywords =>
    unfold argumentLists at listed
    dsimp only at listed
    cases found : splitLast? Keyword.isConfigCall keywords with
    | none =>
      rw [found] at listed
      obtain rfl := List.mem_singleton.mp listed
      rcases List.mem_cons.mp part with rfl | keyword
      · exact List.mem_cons_self
      · obtain ⟨k, given, rfl⟩ := List.mem_map.mp keyword
        exact (mem_recorded given).1
    | some parts =>
      obtain ⟨before, k, after⟩ := parts
      rw [found] at listed
      obtain ⟨rfl, _⟩ := splitLast?_eq_some found
      have among : k ∈ before ++ k :: after := List.mem_append_right before List.mem_cons_self
      rcases List.mem_cons.mp listed with rfl | listed
      · rcases List.mem_cons.mp part with rfl | keyword
        · exact (mem_recorded among).1
        · obtain ⟨l, given, rfl⟩ := List.mem_map.mp keyword
          exact (mem_recorded among).2 l (keywords_of_configCall given)
      · obtain rfl := List.mem_singleton.mp listed
        rcases List.mem_cons.mp part with rfl | keyword
        · exact List.mem_cons_self
        · obtain ⟨l, given, rfl⟩ := List.mem_map.mp keyword
          refine (mem_recorded ?_).1
          exact (List.mem_append.mp given).elim (List.mem_append_left _)
            fun later => List.mem_append_right before (List.mem_cons_of_mem k later)
  | _ => cases listed

end Decorator

namespace Stmt

variable {s : Stmt}

theorem places_subset_recorded {d : Decorator} (member : d ∈ s.decorators) : d.places ⊆ s.recorded :=
  fun _ part => List.mem_append_left _ (List.mem_flatMap_of_mem member (d.places_subset_recorded part))

theorem targetAt_mem_recorded {f : FieldDecl} (annotates : s.fieldDecl? = some f) : f.targetAt ∈ s.recorded := by
  refine List.mem_append_right _ (List.mem_cons_of_mem _ ?_)
  rw [annotates]
  exact List.mem_singleton_self _

theorem inner_subset_within (s : Stmt) : s.inner ⊆ s.within := by
  rw [s.within_eq]
  exact (sublist_stmtsWithin s.inner).subset

end Stmt

theorem mem_cons_within_iff {s t : Stmt} : t ∈ s :: s.within ↔ ReflTransGen Stmt.Holds s t := by
  have alone := @mem_stmtsWithin_iff [s] t
  rw [stmtsWithin_single, ← s.within_eq] at alone
  simpa only [List.mem_singleton, exists_eq_left] using alone

namespace Module

variable {source activation : Text} {m : Module} {s t : Stmt} {p : Pos}

theorem nodup_of_parse (parsed : Module.parse source = .ok m) : (stmtsWithin m.body).Nodup :=
  (recorded_of_parse parsed).imp fun {s t} before same => by
    have own := before s.place s.place_mem_recorded t.place t.place_mem_recorded
    rw [same] at own
    exact t.place.not_before_self own

/-- What one statement records is outside another one that it is no part of. -/
theorem outside_of_recorded (parsed : Module.parse source = .ok m) (first : s ∈ stmtsWithin m.body)
    (second : t ∈ stmtsWithin m.body) (apart : ¬ ReflTransGen Stmt.Holds s t) (recorded : p ∈ t.recorded) :
    p.Outside s := by
  obtain ⟨front, back, whole⟩ := infix_stmtsWithin m.body first
  have ordered := recorded_of_parse parsed
  rw [← whole, List.pairwise_append, List.pairwise_append] at ordered
  obtain ⟨⟨_, _, frontToOwn⟩, _, toBack⟩ := ordered
  rw [← whole, List.mem_append, List.mem_append] at second
  rcases second with (before | inside) | behind
  · refine Or.inl fun q ⟨u, holds, part⟩ => ?_
    exact frontToOwn t before u (mem_cons_within_iff.mpr holds) p recorded q part
  · exact absurd (mem_cons_within_iff.mp inside) apart
  · refine Or.inr fun q ⟨u, holds, part⟩ => ?_
    exact toBack u (List.mem_append_right front (mem_cons_within_iff.mpr holds)) t behind q part p recorded

theorem stmt_mem_of_requests {r : Request} (asked : r ∈ m.requests activation) : r.stmt ∈ stmtsWithin m.body :=
  (List.mem_filter.mp ((map_stmt_requests activation m).mem_iff.mp (List.mem_map_of_mem asked))).1

theorem decorator_mem_of_requests {r : Request} (asked : r ∈ m.requests activation) :
    r.decorator ∈ r.stmt.decorators :=
  List.mem_of_find?_eq_some (of_mem_requests asked).2

/-- A target that is annotated directly in a body is outside every declaration that the body is no part of. -/
theorem target_outside (parsed : Module.parse source = .ok m) {u : Stmt} {f : FieldDecl}
    (first : s ∈ stmtsWithin m.body) (declares : s.isDeclaration = true) (second : t ∈ stmtsWithin m.body)
    (apart : ¬ ReflTransGen Stmt.Holds s t) (inside : u ∈ t.inner) (annotates : u.fieldDecl? = some f) :
    f.targetAt.Outside s := by
  have third : u ∈ stmtsWithin m.body :=
    (infix_stmtsWithin m.body second).subset (List.mem_cons_of_mem t (t.inner_subset_within inside))
  refine outside_of_recorded parsed first third (fun holds => apart ?_) (Stmt.targetAt_mem_recorded annotates)
  rcases List.mem_cons.mp (mem_cons_within_iff.mpr holds) with rfl | deep
  · cases u with
    | simple => cases declares
    | _ => cases annotates
  · obtain ⟨v, among, direct⟩ := exists_inner_of_mem_within deep
    have fourth := (infix_stmtsWithin m.body first).subset among
    obtain rfl := eq_of_mem_inner (nodup_of_parse parsed) fourth second direct inside
    exact mem_cons_within_iff.mp among

/-- No place of a request is the start of the source: there is a sign in front of its decorators. -/
theorem start_before_owned (parsed : Module.parse source = .ok m) {r : Request} (asked : r ∈ m.requests activation)
    (owns : r.Owns p) : Pos.start.Before p := by
  have stmt := stmt_mem_of_requests asked
  have decorator := decorator_mem_of_requests asked
  have behind := start_before_recorded parsed stmt (List.ne_nil_of_mem decorator)
  cases owns with
  | declaration => exact behind _ r.stmt.place_mem_recorded
  | decorator part => exact behind p (Stmt.places_subset_recorded decorator part)
  | @target u f inside annotates =>
    have ordered := (recorded_of_parse parsed).sublist (infix_stmtsWithin m.body stmt).sublist
    have later := (List.pairwise_cons.mp ordered).1 u (r.stmt.inner_subset_within inside)
    exact (behind _ r.stmt.place_mem_recorded).trans_atMost
      (later _ r.stmt.place_mem_recorded _ (Stmt.targetAt_mem_recorded annotates)).atMost

/-- Whatever is reported about a request of a module that was parsed is an error at a place of the request. It is not
the start of the source, and it lies outside every declaration of the module that does not hold the one that makes
the request. -/
theorem requests_located {settings : Settings} {r : Request} {x : Expansion} {d : Diagnostic}
    (parsed : Module.parse source = .ok m) (asked : r ∈ m.requests activation) (run : r.expand settings = .ok x)
    (reported : d ∈ x.diagnostics) :
    ∃ p message, d = Diagnostic.errorAt p message ∧ r.Owns p ∧ p ≠ Pos.start ∧
      ∀ s, m.Contains s → s.isDeclaration = true → ¬ ReflTransGen Stmt.Holds s r.stmt → p.Outside s := by
  obtain ⟨p, message, same, owns⟩ := Request.owns_of_expand run reported
  have stmt := stmt_mem_of_requests asked
  refine ⟨p, message, same, owns, fun start => ?_, fun s contained declares apart => ?_⟩
  · have before := start_before_owned parsed asked owns
    rw [start] at before
    exact Pos.start.not_before_self before
  · have first := contains_iff.mp contained
    cases owns with
    | declaration => exact outside_of_recorded parsed first stmt apart r.stmt.place_mem_recorded
    | decorator part =>
      exact outside_of_recorded parsed first stmt apart
        (Stmt.places_subset_recorded (decorator_mem_of_requests asked) part)
    | target inside annotates => exact target_outside parsed first declares stmt apart inside annotates

/-- A class with a target that is no name, behind another class in it. -/
def attributeSource : Text :=
  "@d\nclass A:\n class B:\n  x: int\n y.z: int\n"

theorem requests_located_attribute : ∃ m r x d, Module.parse attributeSource = .ok m ∧ r ∈ m.requests "d" ∧
    r.expand Settings.default = .ok x ∧ d ∈ x.diagnostics ∧ (d.line = 5 ∧ d.column = 1) ∧
    ∃ p message, d = Diagnostic.errorAt p message ∧ r.Owns p ∧ p ≠ Pos.start ∧
      ∀ s, m.Contains s → s.isDeclaration = true → ¬ ReflTransGen Stmt.Holds s r.stmt → p.Outside s := by
  have fine : ((Module.parse attributeSource).toOption.any fun m =>
      (m.body.flatMap (Request.ofTopLevel "d")).any fun r => (r.expand Settings.default).toOption.any fun x =>
        x.diagnostics.any fun d => decide (d.line = 5 ∧ d.column = 1)) = true := by decide +kernel
  obtain ⟨m, parsed, some⟩ := exists_of_toOption_any fine
  obtain ⟨r, listed, some⟩ := List.any_eq_true.mp some
  obtain ⟨x, run, some⟩ := exists_of_toOption_any some
  obtain ⟨d, reported, located⟩ := List.any_eq_true.mp some
  have asked : r ∈ m.requests "d" := by rwa [requests_of_parse parsed]
  exact ⟨m, r, x, d, parsed, asked, run, reported, of_decide_eq_true located,
    requests_located parsed asked run reported⟩

end Module

end FluentRecords
