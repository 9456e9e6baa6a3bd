import FluentRecords.Proofs.Loading.Execution

/-!
Names that are bound whenever a statement comes to its end. Nothing in a run takes them away again unless the module
itself frees them.
-/

namespace FluentRecords

mutual

/-- The names that a target binds itself. -/
def Expr.targetNames : Expr → List Text
  | .name n => [n]
  | .tuple es => targetNamesIn es
  | .list es => targetNamesIn es
  | .starred e => e.targetNames
  | _ => []

def targetNamesIn : List Expr → List Text
  | [] => []
  | e :: rest => e.targetNames ++ targetNamesIn rest

end

/-- The names that a statement without statements inside always binds. -/
def SimpleStmt.sureNames : SimpleStmt → List Text
  | .assign targets _ => targetNamesIn targets
  | .augmented target _ _ => target.targetNames
  | .annotated target _ _ _ (some _) => target.targetNames
  | .importNames names => names.map Alias.boundName
  | .importFrom (some _) 0 names => names.map fun a => a.asName.getD a.name
  | _ => []

mutual

/-- The names that are bound when a statement comes to its end, whatever happens inside. -/
def Stmt.sureNames : Stmt → List Text
  | .simple _ s => s.sureNames
  | .classDef _ n _ _ _ _ => [n]
  | .functionDef _ _ n _ _ _ _ => [n]
  | .ifElse _ _ body orelse => (sureNamesAmong body).filter (sureNamesAmong orelse).elem
  | .withBlock _ _ items body =>
    (items.flatMap fun i => (i.target.map Expr.targetNames).getD []) ++ sureNamesAmong body
  | .tryBlock _ _ _ _ _ final => sureNamesAmong final
  | _ => []

def sureNamesAmong : List Stmt → List Text
  | [] => []
  | s :: rest => s.sureNames ++ sureNamesAmong rest

end

theorem targetNamesIn_eq_flatMap (es : List Expr) : targetNamesIn es = es.flatMap Expr.targetNames := by
  induction es with
  | nil => rfl
  | cons e rest ih => rw [targetNamesIn, ih, List.flatMap_cons]

namespace World

variable {own : List Naming} {w₀ w : World} {n : Text}

/-- Whether a module binds a name. -/
def Binds (w : World) (n : Text) : Prop :=
  (getThing? w.globals n).isSome = true

theorem Runs.restart (runs : Runs own w₀ w) : Runs own w w where
  reaches := .start
  framed := runs.framed
  functions := runs.functions

end World

namespace Load

variable {α β : Type} {own : List Naming} {n : Text} {x : Load α} {k : α → Load β} {w w' : World} {a : α}

/-- Wherever a run begins, a part of it goes on by steps of the module. -/
def Proceeds (own : List Naming) (x : Load α) : Prop :=
  ∀ w₀, Keeps (World.Runs own w₀) x

theorem Proceeds.runs {w₀ : World} (steady : Proceeds own x) (runs : World.Runs own w₀ w) (given : x.Gives w a w') :
    World.Runs own w₀ w' := by
  have kept := steady w₀ w runs
  rwa [given] at kept

theorem Proceeds.stays {w₀ : World} (steady : Proceeds own x) (runs : World.Runs own w₀ w) (kept : .free n ∉ own)
    (given : x.Gives w a w') (there : w.Binds n) : w'.Binds n :=
  (steady.runs runs.restart given).reaches.stays runs.framed kept there

/-- A part of a run that ends in a certain way leaves a name bound. -/
def Leaves (own : List Naming) (n : Text) (ends : α → Prop) (x : Load α) : Prop :=
  ∀ w₀ w a w', World.Runs own w₀ w → x.Gives w a w' → ends a → w'.Binds n

variable {ends : β → Prop}

theorem Leaves.throw (f : LoadFault) : Leaves own n ends (throw f) :=
  fun _ _ _ _ _ given => absurd given not_gives_throw

theorem Leaves.pure {a : β} (ended : ¬ ends a) : Leaves own n ends (pure a) := by
  intro w₀ w b w' _ given ends
  obtain ⟨rfl, _⟩ := gives_pure.mp given
  exact absurd ends ended

/-- What a first part leaves where it ends in a certain way is there later on. -/
theorem Leaves.onward {ended : α → Prop} (here : Leaves own n ended x) (kept : .free n ∉ own) (steady : Proceeds own x)
    (next : ∀ a, ended a → Proceeds own (k a)) (otherwise : ∀ a, ¬ ended a → Leaves own n ends (k a)) :
    Leaves own n ends (x >>= k) := by
  intro w₀ w b w' runs given ends
  obtain ⟨a, w₁, first, second⟩ := gives_bind.mp given
  have reached := steady.runs runs first
  by_cases complete : ended a
  · exact (next a complete).stays reached kept second (here w₀ w a w₁ runs first complete)
  · exact otherwise a complete w₀ w₁ b w' reached second ends

theorem Leaves.first (here : Leaves own n (fun _ => True) x) (kept : .free n ∉ own) (steady : Proceeds own x)
    (next : ∀ a, Proceeds own (k a)) : Leaves own n ends (x >>= k) :=
  here.onward kept steady (fun a _ => next a) fun _ ended => absurd trivial ended

theorem Leaves.later (steady : Proceeds own x) (next : ∀ a, Leaves own n ends (k a)) : Leaves own n ends (x >>= k) := by
  intro w₀ w b w' runs given ended
  obtain ⟨a, w₁, first, second⟩ := gives_bind.mp given
  exact next a w₀ w₁ b w' (steady.runs runs first) second ended

theorem Leaves.forM {f : α → Load PUnit} {as : List α} {ends : PUnit → Prop} (kept : .free n ∉ own)
    (each : ∀ a ∈ as, Proceeds own (f a)) (member : a ∈ as) (here : Leaves own n (fun _ => True) (f a)) :
    Leaves own n ends (as.forM f) := by
  induction as with
  | nil => cases member
  | cons a' rest ih =>
    obtain ⟨first, later⟩ := List.forall_mem_cons.mp each
    rcases List.mem_cons.mp member with rfl | member
    · exact .first here kept first fun _ w₀ => .forM fun a member => later a member w₀
    · exact .later first fun _ => ih later member

end Load

namespace Loading

open Load

variable {own : List Naming} {sc : Scope} {n : Text}

theorem leaves_define {ends : Unit → Prop} (home : sc.home n = 0) (t : Thing) : Leaves own n ends (define sc n t) := by
  intro w₀ w u w' runs given _
  cases given
  change (getThing? (w.bind (sc.home n) n t).globals n).isSome = true
  rw [home, World.globals_bind n t runs.framed, getThing?_putThing, if_pos rfl]
  rfl

variable {call : Caller} (calls : ∀ w₀ f args keywords, Keeps (World.Runs own w₀) (call f args keywords))
  (kept : .free n ∉ own) (home : sc.home n = 0)

set_option linter.unusedSectionVars false

include calls kept home

mutual

theorem leaves_assign {ends : Unit → Prop} (t : Thing) (e : Expr) (knows : sc.Knows own e.targetNamings)
    (named : n ∈ e.targetNames) : Leaves own n ends (assign call sc t e) := by
  cases e with
  | name m =>
    obtain rfl := List.mem_singleton.mp named
    rw [assign]
    exact leaves_define home t
  | starred e =>
    rw [assign]
    exact leaves_assign t e knows named
  | tuple es =>
    rw [assign]
    exact .later (fun _ => keeps_shares t es) fun ts => leaves_assignAll ts es knows named
  | list es =>
    rw [assign]
    exact .later (fun _ => keeps_shares t es) fun ts => leaves_assignAll ts es knows named
  | _ => cases named

theorem leaves_assignAll {ends : Unit → Prop} (ts : List Thing) (es : List Expr)
    (knows : sc.Knows own (targetNamingsIn es)) (named : n ∈ targetNamesIn es) :
    Leaves own n ends (assignAll call sc ts es) := by
  cases es with
  | nil => cases named
  | cons e rest =>
    obtain ⟨first, later⟩ := knows_append.mp knows
    have here : Proceeds own (assign call sc (ts.headD .unseen) e) := fun w₀ => runs_assign (calls w₀) _ e first
    rw [assignAll]
    rcases List.mem_append.mp named with inside | outside
    · refine .first (leaves_assign _ e first inside) kept here fun _ w₀ => ?_
      exact runs_assignAll (calls w₀) _ rest later
    · exact .later here fun _ => leaves_assignAll _ rest later outside

end

omit calls kept in
theorem leaves_importModule {ends : Unit → Prop} (a : Alias) (named : a.boundName = n) :
    Leaves own n ends (importModule sc a) := by
  unfold importModule
  split
  · exact .throw _
  · unfold Alias.boundName at named
    split
    · rename_i m renamed
      rw [renamed] at named
      cases (show m = n from named)
      exact leaves_define home _
    · rename_i plain
      rw [plain] at named
      cases (show firstName a.name = n from named)
      exact leaves_define home _

omit calls in
theorem leaves_importMembers {ends : Unit → Prop} (module : Text) {names : List Alias}
    (knows : sc.Knows own (names.map fun a => .bind (a.asName.getD a.name)))
    (named : n ∈ names.map fun a => a.asName.getD a.name) : Leaves own n ends (importMembers sc module names) := by
  obtain ⟨a, member, same⟩ := List.mem_map.mp named
  have bound : Leaves own n ends
      (names.forM fun a => define sc (a.asName.getD a.name) (Library.member module a.name)) := by
    refine .forM kept (fun a member w₀ => runs_define (fun x same => ?_) _) member ?_
    · rw [List.mem_singleton.mp same]
      exact knows _ (List.mem_map.mpr ⟨a, member, rfl⟩)
    · rw [same]
      exact leaves_define home _
  have noted : Proceeds own (modify fun w => { w with lazily := true } : Load PUnit) := fun w₀ =>
    .modify fun w runs => runs.elsewhere rfl rfl (List.prefix_refl _) runs.functions
  have plain : Leaves own n ends (do
      if names.any (·.name == Text.ofString "*") then Load.fail .unsupported
      names.forM fun a => define sc (a.asName.getD a.name) (Library.member module a.name)) := by
    dsimp only
    split
    · exact .later (fun _ => .fail _) fun _ => bound
    · exact bound
  unfold importMembers
  dsimp only
  split
  · refine .later (fun _ => .raise _ _) fun _ => ?_
    split
    · exact .later noted fun _ => plain
    · exact plain
  · split
    · exact .later noted fun _ => plain
    · exact plain

theorem leaves_execSimple (s : SimpleStmt) (knows : sc.Knows own s.namings) (named : n ∈ s.sureNames) :
    Leaves own n (· = .next) (execSimple call sc s) := by
  cases s with
  | assign targets e =>
    obtain ⟨evaluated, assigned⟩ := knows_append.mp knows
    rw [targetNamingsIn_eq_flatMap] at assigned
    rw [SimpleStmt.sureNames, targetNamesIn_eq_flatMap] at named
    obtain ⟨target, member, inside⟩ := List.mem_flatMap.mp named
    have here : ∀ t, ∀ e ∈ targets, Proceeds own (assign call sc t e) := fun t e member w₀ =>
      runs_assign (calls w₀) t e (knows_flatMap assigned member)
    rw [execSimple]
    refine .later (fun w₀ => runs_eval (calls w₀) e evaluated) fun t => ?_
    refine .first (.forM kept (here t) member ?_) kept (fun w₀ => .forM fun e member => here t e member w₀) ?_
    · exact leaves_assign calls kept home t target (knows_flatMap assigned member) inside
    · exact fun _ _ => .pure _
  | augmented target op e =>
    obtain ⟨both, assigned⟩ := knows_append.mp knows
    obtain ⟨read, evaluated⟩ := knows_append.mp both
    rw [execSimple]
    refine .later (fun w₀ => runs_eval (calls w₀) target read) fun old => ?_
    refine .later (fun w₀ => runs_eval (calls w₀) e evaluated) fun t => ?_
    refine .later (fun w₀ => keeps_operate op old t) fun new => ?_
    have here : Proceeds own (assign call sc new target) := fun w₀ => runs_assign (calls w₀) new target assigned
    exact .first (leaves_assign calls kept home new target assigned named) kept here fun _ _ => .pure _
  | annotated target place bare type value =>
    cases value with
    | none => cases named
    | some e =>
      obtain ⟨typed, stored⟩ := knows_append.mp knows
      obtain ⟨evaluated, assigned⟩ := knows_append.mp stored
      have there : ∀ t, Leaves own n (fun _ => True) (assign call sc t target) := fun t =>
        leaves_assign calls kept home t target assigned named
      have here : ∀ t, Proceeds own (assign call sc t target) := fun t w₀ => runs_assign (calls w₀) t target assigned
      have noted : Leaves own n (fun _ => True) (annotated call sc target bare type (some e)) := by
        unfold annotated
        split
        · refine .later (fun w₀ => runs_eval (calls w₀) e evaluated) fun t => ?_
          exact .first (there t) kept (here t) fun _ w₀ => runs_noted (calls w₀) target bare typed
        · refine .later (fun w₀ => runs_eval (calls w₀) e evaluated) fun t => ?_
          exact .first (there t) kept (here t) fun _ _ => .pure _
      rw [execSimple]
      exact .first noted kept (fun w₀ => runs_annotated (calls w₀) knows) fun _ _ => .pure _
  | importNames names =>
    obtain ⟨a, member, same⟩ := List.mem_map.mp named
    have here : ∀ a ∈ names, Proceeds own (importModule sc a) := by
      refine fun a member w₀ => runs_importModule (calls w₀) a fun x same => ?_
      rw [List.mem_singleton.mp same]
      exact knows _ (List.mem_map.mpr ⟨a, member, rfl⟩)
    rw [execSimple]
    refine .first (.forM kept here member (leaves_importModule home a same)) kept ?_ fun _ _ => .pure _
    exact fun w₀ => .forM fun a member => here a member w₀
  | importFrom module level names =>
    cases module with
    | none => cases named
    | some m =>
      cases level with
      | zero =>
        have steady : Proceeds own (importMembers sc m names) := fun w₀ => runs_importMembers (calls w₀) m names knows
        exact .first (leaves_importMembers kept home m knows named) kept steady fun _ _ => .pure _
      | succ level => cases named
  | _ => cases named

omit calls kept home in
theorem leaves_newFrame_bind {β : Type} {k : Nat → Load β} {ends : β → Prop} (names : List (Text × Thing))
    (next : ∀ frame, frame ≠ 0 → Leaves own n ends (k frame)) : Leaves own n ends (newFrame names >>= k) := by
  intro w₀ w b w' runs given ended
  have apart : w.frames.length ≠ 0 := fun none => runs.framed (List.length_eq_zero_iff.mp none)
  obtain ⟨frame, w₁, first, second⟩ := gives_bind.mp given
  cases first
  exact next w.frames.length apart w₀ _ b w' (runs.addFrame _) second ended

/-- A class or a function is bound once its decorators are applied. -/
theorem leaves_decorated (bound : sc.Knows own [.bind n]) (t : Thing) (decorators : List Thing) :
    Leaves own n (· = .next) (do
      let t ← decorate call t decorators
      define sc n t
      pure Flow.next) := by
  refine .later (fun w₀ => runs_decorate (calls w₀) t decorators) fun t => ?_
  exact .first (leaves_define home t) kept (fun _ => runs_define bound t) fun _ _ => .pure _

theorem leaves_completed (bound : sc.Knows own [.bind n]) (bs decorators : List Thing) (owner : Nat) (f : NameFrame) :
    Leaves own n (· = .next) (do
      let style ← if bs.any Thing.isNamedTuple then
          FieldStyle.tuple <$> NamedTuple.fields f.names f.declared
        else pure .none
      modify (·.completeClass owner f style)
      let t ← decorate call (.cls owner) decorators
      define sc n t
      pure Flow.next) := by
  have next : ∀ style, Leaves own n (· = .next) (do
      modify (·.completeClass owner f style)
      let t ← decorate call (.cls owner) decorators
      define sc n t
      pure Flow.next) := fun style =>
    .later (fun _ => .modify fun _ runs => runs.modifyClass fun _ => rfl) fun _ =>
      leaves_decorated calls kept home bound _ decorators
  dsimp only
  split
  · exact .later (fun _ => .map _ (keeps_tupleFields _ _)) next
  · exact .later (fun _ => .pure _) next

/-- What is entered is bound under its target. -/
theorem leaves_entered {ends : Unit → Prop} (i : WithItem)
    (knows : sc.Knows own (i.context.namings ++ (i.target.map Expr.targetNamings).getD []))
    (named : n ∈ (i.target.map Expr.targetNames).getD []) : Leaves own n ends (do
      let t ← eval call sc i.context
      match i.target with
      | some target => assign call sc t target
      | none => pure ()) := by
  obtain ⟨evaluated, assigned⟩ := knows_append.mp knows
  refine .later (fun w₀ => runs_eval (calls w₀) i.context evaluated) fun t => ?_
  split
  · rename_i target given
    rw [given] at assigned named
    exact leaves_assign calls kept home t target assigned named
  · rename_i given
    rw [given] at named
    cases named

mutual

theorem leaves_exec (s : Stmt) (knows : sc.Knows own s.namings) (announced : Announced own (s :: s.within))
    (named : n ∈ s.sureNames) : Leaves own n (· = .next) (exec call sc s) := by
  cases s with
  | simple place s =>
    rw [exec]
    exact leaves_execSimple calls kept home s knows named
  | functionDef place async m ps returns ds body =>
    rw [Stmt.namings, knows_append, knows_append, knows_append, Params.namings_eq] at knows
    obtain ⟨⟨⟨decorated, defaulted⟩, _⟩, bound⟩ := knows
    obtain ⟨outward, inner⟩ := List.forall_mem_cons.mp announced
    have made : ∀ defaults, Proceeds own (makeFunction sc m ps defaults (.statements body)) := fun defaults w₀ =>
      @runs_makeFunction own w₀ (.statements body) (mem_of_outwardNamings outward) inner sc m ps defaults
    cases List.mem_singleton.mp named
    rw [exec]
    refine .later (fun w₀ => runs_decoratorsOf (calls w₀) ds decorated) fun decorators => ?_
    refine .later (fun w₀ => runs_defaultsOf (calls w₀) _ defaulted) fun defaults => ?_
    exact .later (made defaults) fun f => leaves_decorated calls kept home bound f decorators
  | classDef place m bases keywords ds body =>
    rw [Stmt.namings, knows_append, knows_append, knows_append] at knows
    obtain ⟨⟨⟨decorated, based⟩, keyed⟩, bound⟩ := knows
    obtain ⟨outward, inner⟩ := List.forall_mem_cons.mp announced
    have outer := mem_of_outwardNamings outward
    cases List.mem_singleton.mp named
    rw [exec]
    refine .later (fun w₀ => runs_decoratorsOf (calls w₀) ds decorated) fun decorators => ?_
    refine .later (fun w₀ => runs_evalArgs (calls w₀) bases based) fun bs => ?_
    refine .later (fun w₀ => runs_evalKeywords (calls w₀) keywords keyed) fun _ => ?_
    refine leaves_newFrame_bind [] fun frame apart => .later (fun _ _ runs => runs) fun w => ?_
    refine .later (fun _ => .modify fun _ runs => runs.addClass _) fun _ => ?_
    refine .later (fun w₀ => runs_execAll (calls w₀) _ body (knows_inner apart outer) inner) fun flow => ?_
    split
    · refine .later (fun _ _ runs => runs) fun w => ?_
      split
      · dsimp only
        split
        · exact .later (fun _ => .fail _) fun _ => leaves_completed calls kept home bound bs decorators _ _
        · exact leaves_completed calls kept home bound bs decorators _ _
      · exact .throw _
    · exact .throw _
  | ifElse place test body orelse =>
    rw [Stmt.namings, knows_append, knows_append] at knows
    obtain ⟨⟨tested, yes⟩, no⟩ := knows
    obtain ⟨first, second⟩ := announced_append.mp (List.forall_mem_cons.mp announced).2
    obtain ⟨inBody, inElse⟩ := List.mem_filter.mp named
    rw [exec]
    refine .later (fun w₀ => runs_eval (calls w₀) test tested) fun t => ?_
    split
    · exact leaves_execAll body yes first inBody
    · exact leaves_execAll orelse no second (List.elem_iff.mp inElse)
  | withBlock place async items body =>
    rw [Stmt.namings, knows_append] at knows
    obtain ⟨opened, inside⟩ := knows
    have inner : Announced own (stmtsWithin body) := (List.forall_mem_cons.mp announced).2
    have entered : ∀ i ∈ items, Proceeds own (do
        let t ← eval call sc i.context
        match i.target with
        | some target => assign call sc t target
        | none => pure ()) := by
      intro i member w₀
      have here := knows_flatMap opened member
      exact runs_entered (calls w₀) i here
    have all := fun w₀ => Keeps.forM fun i member => entered i member w₀
    rw [exec]
    rcases List.mem_append.mp named with outside | within
    · obtain ⟨i, member, target⟩ := List.mem_flatMap.mp outside
      have here := knows_flatMap opened member
      refine .first (.forM kept entered member ?_) kept all fun _ w₀ => runs_execAll (calls w₀) sc body inside inner
      exact leaves_entered calls kept home i here target
    · exact .later all fun _ => leaves_execAll body inside inner within
  | tryBlock place async body handlers orelse final =>
    rw [Stmt.namings, knows_append, knows_append, knows_append] at knows
    obtain ⟨⟨⟨tried, handled⟩, otherwise⟩, last⟩ := knows
    obtain ⟨first, second, third, fourth⟩ := announced_try announced
    rw [exec]
    refine .later (fun w₀ => keeps_attempt (runs_execAll (calls w₀) sc body tried first)
      (runs_execAll (calls w₀) sc orelse otherwise third)
      fun f => runs_execHandlers (calls w₀) sc f handlers handled second) fun outcome => ?_
    have steady : Proceeds own (execAll call sc final) := fun w₀ => runs_execAll (calls w₀) sc final last fourth
    refine (leaves_execAll final last fourth named).onward kept steady (fun flow complete w₀ => ?_) fun flow broken => ?_
    · cases complete
      cases outcome with
      | ok flow' => exact .pure _
      | error f => exact .throw _
    · cases flow with
      | next => exact absurd rfl broken
      | returned r => exact .pure nofun
  | _ => cases named

/-- Statements that come to their end leave what each of them binds. -/
theorem leaves_execAll (ss : List Stmt) (knows : sc.Knows own (namingsAmong ss))
    (announced : Announced own (stmtsWithin ss)) (named : n ∈ sureNamesAmong ss) :
    Leaves own n (· = .next) (execAll call sc ss) := by
  cases ss with
  | nil => cases named
  | cons s rest =>
    obtain ⟨here, later⟩ := knows_append.mp knows
    rw [stmtsWithin, announced_append] at announced
    obtain ⟨inside, after⟩ := announced
    have steady : Proceeds own (execAll call sc rest) := fun w₀ => runs_execAll (calls w₀) sc rest later after
    have first : Proceeds own (exec call sc s) := fun w₀ => runs_exec (calls w₀) sc s here inside
    rw [execAll]
    rcases List.mem_append.mp named with early | late
    · refine (leaves_exec s here inside early).onward kept first (fun flow complete => ?_) fun flow broken => ?_
      · cases complete
        exact steady
      · cases flow with
        | next => exact absurd rfl broken
        | returned t => exact .pure nofun
    · refine .later first fun flow => ?_
      cases flow with
      | next => exact leaves_execAll rest later after late
      | returned t => exact .pure nofun

end

end Loading

end FluentRecords
