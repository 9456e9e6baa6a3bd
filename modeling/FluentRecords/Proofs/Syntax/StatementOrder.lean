import FluentRecords.Proofs.Outcome
import FluentRecords.Proofs.Record.Acceptance
import FluentRecords.Proofs.Syntax.ExpressionPlaces
import FluentRecords.Proofs.Syntax.Nesting
import FluentRecords.Proofs.Syntax.TokenOrder
import FluentRecords.Record.Shape
import FluentRecords.Syntax.Source

/-!
The order of statements. Every statement of a module that was parsed, however deep it is nested, stands at tokens of
its own, and these come in the order in which the statements are written down. So do the places that are recorded in
statements: their own, those of targets of annotations, and those in decorators, which stand behind a sign. What
statements name, declarations and annotated names, they name by a token.
-/

namespace FluentRecords

/-- The places that a decorator records: its own and, where it is a call, those of its keyword arguments and of those
of calls among their values. -/
def Decorator.recorded (d : Decorator) : List Pos :=
  d.place :: d.expr.keywords.flatMap fun k => k.place :: k.value.keywords.map Keyword.place

/-- The places that a statement records: those of its decorators, its own and that of the target of an annotation. -/
def Stmt.recorded (s : Stmt) : List Pos :=
  s.decorators.flatMap Decorator.recorded ++ s.place :: (s.fieldDecl?.map FieldDecl.targetAt).toList

theorem Stmt.place_mem_recorded (s : Stmt) : s.place ∈ s.recorded :=
  List.mem_append_right _ List.mem_cons_self

theorem StandsIn.before {tokens : Array Token} (inOrder : tokens.toList.Pairwise fun t u => t.Passed u.place)
    {i j k l : Nat} {p q : Pos} (here : StandsIn tokens i j p) (there : StandsIn tokens k l q) (apart : j < k) :
    p.Before q := by
  obtain ⟨a, t, _, upper, found, inner, rfl⟩ := here
  obtain ⟨b, u, lower, _, found', _, rfl⟩ := there
  obtain ⟨bound, rfl⟩ := Array.getElem?_eq_some_iff.mp found
  obtain ⟨bound', rfl⟩ := Array.getElem?_eq_some_iff.mp found'
  exact (List.pairwise_iff_getElem.mp inOrder a b bound bound' (by omega)).before inner

/-- The names that a statement gives: that of a declaration, or a plain one that is annotated. -/
def Stmt.names (s : Stmt) : List Text :=
  s.declaredName?.toList ++ (s.fieldDecl?.bind FieldDecl.name?).toList

/-- A name is that of a token. -/
def TokenName (tokens : Array Token) (n : Text) : Prop :=
  ∃ t ∈ tokens, t.kind = .name ∧ n = Text.ofString t.text

/-- What a statement records stands from one index on and up to another one; in a decorated declaration, there is a
token in front of it. The names that it gives are those of tokens. -/
structure Stmt.Stands (tokens : Array Token) (i j : Nat) (s : Stmt) : Prop where
  places : ∀ p ∈ s.recorded, StandsIn tokens i j p
  named : ∀ n ∈ s.names, TokenName tokens n
  sign : s.decorators ≠ [] → ∃ k t, tokens[k]? = some t ∧ t.isInner = true ∧
    ∀ p ∈ s.recorded, StandsIn tokens (k + 1) j p

section Spread

variable {tokens : Array Token} {i i' j j' k : Nat} {s : Stmt} {ss rest : List Stmt}

namespace Stmt.Stands

theorem mono (stands : s.Stands tokens i j) (lower : i' ≤ i) (upper : j ≤ j') : s.Stands tokens i' j' where
  places p member := (stands.places p member).mono lower upper
  named := stands.named
  sign decorated :=
    have ⟨k, t, found, inner, behind⟩ := stands.sign decorated
    ⟨k, t, found, inner, fun p member => (behind p member).mono (Nat.le_refl _) upper⟩

theorem le (stands : s.Stands tokens i j) : i ≤ j := by
  obtain ⟨k, _, lower, upper, _⟩ := stands.places s.place s.place_mem_recorded
  omega

end Stmt.Stands

/-- Statements stand at tokens from an index on and in front of another one, each behind the one before it. -/
inductive Spread (tokens : Array Token) : Nat → List Stmt → Nat → Prop
  | nil {i j : Nat} (le : i ≤ j) : Spread tokens i [] j
  | cons {i j k : Nat} {s : Stmt} {ss : List Stmt} (stands : s.Stands tokens i k) (rest : Spread tokens (k + 1) ss j) :
    Spread tokens i (s :: ss) j

namespace Spread

theorem mono (spread : Spread tokens j ss k) (le : i ≤ j) : Spread tokens i ss k := by
  cases spread with
  | nil later => exact .nil (Nat.le_trans le later)
  | cons stands rest => exact .cons (stands.mono le (Nat.le_refl _)) rest

theorem append (first : Spread tokens i ss j) (next : Spread tokens j rest k) : Spread tokens i (ss ++ rest) k := by
  induction first with
  | nil le => exact next.mono le
  | cons stands _ ih => exact .cons stands (ih next)

theorem extend (spread : Spread tokens i ss j) (le : j ≤ k) : Spread tokens i ss k := by
  have all := spread.append (.nil le)
  rwa [List.append_nil] at all

theorem mem (spread : Spread tokens i ss j) (member : s ∈ ss) : ∃ k, s.Stands tokens i k := by
  induction spread with
  | nil => cases member
  | cons stands _ ih =>
    rcases List.mem_cons.mp member with rfl | later
    · exact ⟨_, stands⟩
    · obtain ⟨l, behind⟩ := ih later
      exact ⟨l, behind.mono (Nat.le_succ_of_le stands.le) (Nat.le_refl l)⟩

/-- Where tokens are in order, so is what the statements record. -/
theorem pairwise (inOrder : tokens.toList.Pairwise fun t u => t.Passed u.place) (spread : Spread tokens i ss j) :
    ss.Pairwise fun s t => ∀ p ∈ s.recorded, ∀ q ∈ t.recorded, p.Before q := by
  induction spread with
  | nil => exact .nil
  | cons stands rest ih =>
    refine List.pairwise_cons.mpr ⟨fun t member p here q there => ?_, ih⟩
    obtain ⟨l, behind⟩ := rest.mem member
    exact (stands.places p here).before inOrder (behind.places q there) (Nat.lt_succ_self _)

/-- Where no token stands in front of a place, what a decorated declaration records stands behind it. -/
theorem behind {q : Pos} (inOrder : tokens.toList.Pairwise fun t u => t.Passed u.place)
    (all : ∀ t ∈ tokens.toList, q.AtMost t.place) (spread : Spread tokens i ss j) (member : s ∈ ss)
    (decorated : s.decorators ≠ []) : ∀ p ∈ s.recorded, q.Before p := by
  intro p here
  obtain ⟨k, stands⟩ := spread.mem member
  obtain ⟨l, t, found, inner, behind⟩ := stands.sign decorated
  have before := (StandsIn.of_token found inner).before inOrder (behind p here) (Nat.lt_succ_self l)
  exact (all t (Array.mem_toList_iff.mpr (Array.mem_of_getElem? found))).trans_before before

end Spread

/-- Decorators stand from one index on and up to another one, behind a sign. -/
def Decorated (tokens : Array Token) (i j : Nat) (ds : List Decorator) : Prop :=
  ds = [] ∨ ∃ t, tokens[i]? = some t ∧ t.isInner = true ∧ ∀ d ∈ ds, ∀ p ∈ d.recorded, StandsIn tokens (i + 1) j p

/-- A statement at a token, with its decorators in front of it and other statements inside. -/
theorem Spread.statement {t : Token} (lead : Decorated tokens i j s.decorators) (le : i ≤ j)
    (found : tokens[j]? = some t) (inner : t.isInner = true) (place : s.place = t.place) (plain : s.fieldDecl? = none)
    (named : ∀ n, s.declaredName? = some n → TokenName tokens n)
    (rest : Spread tokens (j + 1) (stmtsWithin s.inner) k) : Spread tokens i (stmtsWithin [s]) k := by
  have own : StandsIn tokens j j s.place := place ▸ .of_token found inner
  have recorded {p : Pos} (member : p ∈ s.recorded) : (∃ d ∈ s.decorators, p ∈ d.recorded) ∨ p = s.place := by
    rw [Stmt.recorded, plain] at member
    exact (List.mem_append.mp member).imp List.mem_flatMap.mp List.mem_singleton.mp
  rw [stmtsWithin_single]
  refine .cons ⟨fun p member => ?_, fun n member => ?_, fun decorated => ?_⟩ rest
  · rcases recorded member with ⟨d, inside, part⟩ | rfl
    · rcases lead with none | ⟨_, _, _, stand⟩
      · rw [none] at inside
        cases inside
      · exact (stand d inside p part).mono (Nat.le_succ i) (Nat.le_refl j)
    · exact own.mono le (Nat.le_refl j)
  · rw [Stmt.names, plain, Option.bind_none, Option.toList_none, List.append_nil] at member
    exact named n (Option.mem_toList.mp member)
  · obtain ⟨u, sign, inner, stand⟩ := lead.resolve_left decorated
    refine ⟨i, u, sign, inner, fun p member => ?_⟩
    rcases recorded member with ⟨d, inside, part⟩ | rfl
    · exact stand d inside p part
    · obtain ⟨d, ds, same⟩ := List.exists_cons_of_ne_nil decorated
      obtain ⟨l, _, lower, upper, _⟩ := stand d (same ▸ List.mem_cons_self) d.place List.mem_cons_self
      exact own.mono (by omega) (Nat.le_refl j)

/-- Blocks of statements one after the other. -/
theorem Spread.blocks (first : Spread tokens i (stmtsWithin ss) j) (next : Spread tokens j (stmtsWithin rest) k) :
    Spread tokens i (stmtsWithin (ss ++ rest)) k := by
  rw [stmtsWithin_append]
  exact first.append next

end Spread

/-- The block of a handler. -/
def Handler.block : Handler → List Stmt
  | .mk _ _ body => body

/-- The block of a case. -/
def MatchCase.block : MatchCase → List Stmt
  | .mk _ _ body => body

/-- The statements in what a parser answers stand at the tokens consumed for it. -/
def Parser.Spreads {α : Type} (tokens : Tokens) (inside : α → List Stmt) (p : Parser α) : Prop :=
  ∀ i, Parser.Reaches p ⟨tokens, false⟩ i fun a j => Spread tokens.tokens i (stmtsWithin (inside a)) j

/-- A target of an annotation stands from one index on and up to another one, and if it is a plain name, it is that of
a token. -/
structure Parsed.Targets (tokens : Array Token) (i j : Nat) (e : Parsed) : Prop where
  place : StandsIn tokens i j e.origin.place
  named : ∀ n, e.expr = .name n → TokenName tokens n

theorem Parsed.Targets.mono {tokens : Array Token} {i i' j j' : Nat} {e : Parsed} (targets : e.Targets tokens i j)
    (lower : i' ≤ i) (upper : j ≤ j') : e.Targets tokens i' j' :=
  ⟨targets.place.mono lower upper, targets.named⟩

/-- Rules whose statements, and whose targets of annotations, stand at tokens consumed for them. -/
structure Rules.Spreads (tokens : Tokens) (g : Rules) : Prop where
  block : (g .block).Spreads tokens id
  statements : (g .statements).Spreads tokens id
  elif : (g .elif).Spreads tokens fun s => [s]
  singleTarget : ∀ i, Parser.Reaches (g .singleTarget) ⟨tokens, false⟩ i fun e j => e.Targets tokens.tokens i j

/-- The lines of a module are never empty: at least a line feed closes the last one. -/
theorem Source.closedLines_ne_nil (cs : List Char) : closedLines cs ≠ [] := by
  intro none
  unfold closedLines at none
  dsimp only at none
  split at none
  · exact List.append_ne_nil_of_right_ne_nil _ (List.cons_ne_nil _ _) none
  · rename_i closed
    rw [none] at closed
    exact closed rfl

namespace Grammar

open FluentRecords.Parser

/-! Statements of one line. Only an annotated assignment records a place besides its own. -/

section Simple

variable {g : Rules} {env : ParseEnv} {i : Nat}

/-- The token at which a name is found has that name. -/
theorem reaches_tokenName {holds : Token → Nat → Prop}
    (fine : ∀ t, TokenName env.tokens.tokens (Text.ofString t.text) → holds t (i + 1)) : Reaches name env i holds :=
  reaches_kind fun t found named => fine t ⟨t, Array.mem_of_getElem? found, named, rfl⟩

theorem reaches_nameTarget : Reaches nameTarget env i fun e j => e.Targets env.tokens.tokens i j := by
  refine reaches_bind (reaches_kind fun t found named => reaches_pure ⟨?_, ?_⟩)
  · exact (StandsIn.of_token found (Token.isInner_of_kind (beq_iff_eq.mpr named) (by decide))).mono (Nat.le_refl i)
      (Nat.le_succ i)
  · rintro _ ⟨⟩
    exact ⟨t, Array.mem_of_getElem? found, named, rfl⟩

theorem reaches_placeInside : Reaches (placeInside g) env i fun e j => e.Targets env.tokens.tokens i j := by
  refine reaches_bind (reaches_here fun t found inner => ?_)
  refine reaches_behind fun a j le => reaches_bind (p := _ <|> _) ?_
  have target (i : Nat) : Reaches (attributeOf t.origin a <|> subscriptOf g t.origin a) env i fun e _ =>
      e.origin = t.origin ∧ ∀ n, e.expr ≠ .name n :=
    reaches_or (reaches_behind fun _ _ _ => reaches_behind fun _ _ _ => reaches_pure ⟨rfl, fun _ => nofun⟩)
      (reaches_behind fun _ _ _ => reaches_pure ⟨rfl, fun _ => nofun⟩)
  refine (target j).forward.imp fun e k ⟨le', same, other⟩ => reaches_behind fun _ l le'' => reaches_pure ⟨?_, ?_⟩
  · rw [same]
    exact (StandsIn.of_token found inner).mono (Nat.le_refl i) (by omega)
  · exact fun n isName => absurd isName (other n)

/-- The target that a statement of one line annotates, if it does, stands from one index on and up to another one, and
its name is that of a token. -/
def TargetIn (tokens : Array Token) (i j : Nat) (s : SimpleStmt) : Prop :=
  ∀ place f, (Stmt.simple place s).fieldDecl? = some f →
    StandsIn tokens i j f.targetAt ∧ ∀ n, f.target = .name n → TokenName tokens n

/-- Whatever a parser answers annotates no target. -/
def Unannotated (p : Parser SimpleStmt) : Prop :=
  ∀ env i, Reaches p env i fun s _ => ∀ place, (Stmt.simple place s).fieldDecl? = none

theorem Unannotated.reaches {p : Parser SimpleStmt} (none : Unannotated p) :
    Reaches p env i fun s j => TargetIn env.tokens.tokens i j s :=
  (none env i).imp fun _ _ none place f same => by
    rw [none] at same
    cases same

theorem unannotated_pure {s : SimpleStmt} (none : ∀ place, (Stmt.simple place s).fieldDecl? = none) :
    Unannotated (pure s) :=
  fun _ _ => reaches_pure none

theorem unannotated_behind {β : Type} {p : Parser β} {f : β → Parser SimpleStmt} (next : ∀ b, Unannotated (f b)) :
    Unannotated (p >>= f) :=
  fun env _ => reaches_behind fun b j _ => next b env j

theorem unannotated_or {p q : Parser SimpleStmt} (first : Unannotated p) (second : Unannotated q) :
    Unannotated (p <|> q) :=
  fun env i => reaches_or (first env i) (second env i)

theorem unannotated_complain {ps : List (Parser Unit)} : Unannotated (complain ps) :=
  fun _ _ => reaches_complain ps

theorem unannotated_expression : Unannotated (expressionStatement g) :=
  unannotated_behind fun _ => unannotated_pure fun _ => rfl

theorem unannotated_word {text : String} {s : SimpleStmt} (none : ∀ place, (Stmt.simple place s).fieldDecl? = none) :
    Unannotated (wordStatement text s) :=
  unannotated_behind fun _ => unannotated_pure none

theorem unannotated_import : Unannotated importStatement := by
  refine unannotated_or (unannotated_behind fun _ => unannotated_behind fun _ => unannotated_pure fun _ => rfl) ?_
  refine unannotated_behind fun _ => unannotated_behind fun _ => unannotated_behind fun _ => ?_
  split
  · exact fun _ _ => reaches_bind reaches_fail
  · exact unannotated_behind fun _ => unannotated_behind fun _ => unannotated_pure fun _ => rfl

theorem unannotated_names {text : String} {s : List Text → SimpleStmt}
    (none : ∀ ns place, (Stmt.simple place (s ns)).fieldDecl? = none) :
    Unannotated (do let _ ← word text; s <$> nameList) :=
  unannotated_behind fun _ => unannotated_behind fun _ => unannotated_pure (none _)

variable (targets : ∀ i, Reaches (g .singleTarget) env i fun e j => e.Targets env.tokens.tokens i j)
include targets

/-- The target of an annotation stands at a token consumed for it. -/
theorem reaches_assignment : Reaches (assignment g) env i fun s j => TargetIn env.tokens.tokens i j s := by
  have tail {e : Parsed} {bare : Bool} {i j : Nat} (stands : e.Targets env.tokens.tokens i j) :
      Reaches (annotationTail g e bare) env j fun s k => TargetIn env.tokens.tokens i k s := by
    refine reaches_behind fun _ _ le => reaches_behind fun _ _ le' => reaches_behind fun _ _ le'' => reaches_pure ?_
    intro place f same
    cases same
    exact ⟨stands.place.mono (Nat.le_refl i) (by omega), stands.named⟩
  have target : Reaches (annotationTarget g) env i fun e j => e.Targets env.tokens.tokens i j :=
    reaches_or (reaches_between fun j le => (targets j).imp fun _ _ stands _ le' => stands.mono le le')
      reaches_placeInside
  refine reaches_or (reaches_bind (reaches_nameTarget.imp fun _ _ stands => tail stands)) ?_
  refine reaches_or (reaches_bind (target.imp fun _ _ stands => tail stands)) ?_
  refine reaches_or (Unannotated.reaches ?_)
    (Unannotated.reaches fun _ _ => reaches_commit (.of_forall ?_) (reaches_complain _))
  · exact unannotated_behind fun _ => unannotated_behind fun _ => unannotated_behind fun _ =>
      unannotated_pure fun _ => rfl
  · rintro ⟨t, bop⟩ j _
    exact unannotated_behind (fun _ => unannotated_pure fun _ => rfl) _ _

end Simple

section Statements

variable {tokens : Tokens} {g : Rules} {i : Nat} (blocks : g.Spreads tokens)
include blocks

theorem reaches_simpleStatement : Reaches (simpleStatement g) ⟨tokens, false⟩ i fun s j =>
    s.Stands tokens.tokens i j ∧ s.inner = [] := by
  refine reaches_bind (reaches_here fun t found inner => ?_)
  refine reaches_bind (Reaches.imp (Reaches.forward (reaches_or (reaches_assignment blocks.singleTarget)
    (Unannotated.reaches ?others))) ?done)
  case others =>
    refine unannotated_or unannotated_expression (unannotated_or ?_ (unannotated_or unannotated_import ?_))
    · exact unannotated_behind fun _ => unannotated_behind fun _ => unannotated_pure fun _ => rfl
    refine unannotated_or (unannotated_behind fun _ => unannotated_or ?_ (unannotated_pure fun _ => rfl)) ?_
    · exact unannotated_behind fun _ => unannotated_behind fun _ => unannotated_pure fun _ => rfl
    refine unannotated_or (unannotated_word fun _ => rfl) (unannotated_or (unannotated_or ?_ unannotated_complain) ?_)
    · exact unannotated_behind fun _ => unannotated_behind fun _ => unannotated_behind fun _ =>
        unannotated_pure fun _ => rfl
    refine unannotated_or (unannotated_behind fun _ => unannotated_pure fun _ => rfl) (unannotated_or ?_ ?_)
    · exact unannotated_behind fun _ => unannotated_behind fun _ => unannotated_behind fun _ =>
        unannotated_pure fun _ => rfl
    exact unannotated_or (unannotated_word fun _ => rfl) (unannotated_or (unannotated_word fun _ => rfl)
      (unannotated_or (unannotated_names fun _ _ => rfl) (unannotated_names fun _ _ => rfl)))
  case done =>
    refine fun s j ⟨le, target⟩ =>
      reaches_pure ⟨⟨fun p member => ?_, fun n member => ?_, fun decorated => absurd rfl decorated⟩, rfl⟩
    · rcases List.mem_cons.mp member with rfl | annotated
      · exact (StandsIn.of_token found inner).mono (Nat.le_refl i) le
      · obtain ⟨f, same, rfl⟩ := Option.map_eq_some_iff.mp (Option.mem_toList.mp annotated)
        exact (target _ f same).1
    · obtain ⟨f, same, named⟩ := Option.bind_eq_some_iff.mp (Option.mem_toList.mp member)
      exact (target _ f same).2 n (FieldDecl.name?_eq_some.mp named)

/-- The statements of a line stand one behind the other, with a sign between them. -/
theorem spreads_simpleStatements : (simpleStatements g).Spreads tokens id := by
  have next (i : Nat) : Reaches (do let _ ← op ";"; simpleStatement g) ⟨tokens, false⟩ i fun s j =>
      s.Stands tokens.tokens (i + 1) j ∧ s.inner = [] :=
    reaches_bind (reaches_op fun _ _ _ => reaches_simpleStatement blocks)
  have others (i : Nat) : Reaches (many (do let _ ← op ";"; simpleStatement g)) ⟨tokens, false⟩ i fun ss j =>
      Spread tokens.tokens (i + 1) (stmtsWithin ss) (j + 1) := by
    refine reaches_many (fun i ss j => Spread tokens.tokens (i + 1) (stmtsWithin ss) (j + 1)) next
      (fun i => .nil (Nat.le_refl _)) fun i s j ss k ⟨stands, simple⟩ rest => ?_
    rw [stmtsWithin_cons, simple]
    exact .cons stands rest
  intro i
  have line : Reaches (sepBy1 (simpleStatement g) (op ";")) ⟨tokens, false⟩ i fun ss j =>
      Spread tokens.tokens i (stmtsWithin ss) (j + 1) := by
    refine reaches_bind ((reaches_simpleStatement blocks).imp fun s j ⟨stands, simple⟩ => ?_)
    refine reaches_bind ((others j).imp fun ss k rest => reaches_pure ?_)
    rw [stmtsWithin_cons, simple]
    exact .cons stands rest
  refine reaches_bind (line.imp fun ss j spread => reaches_behind fun _ k le => ?_)
  exact reaches_bind (reaches_kind fun _ _ _ => reaches_pure (spread.extend (Nat.succ_le_succ le)))

theorem spreads_body : (body g).Spreads tokens id :=
  fun _ => reaches_behind fun _ j le => (blocks.block j).imp fun _ _ spread => spread.mono le

theorem spreads_demandedBody : (demandedBody g).Spreads tokens id :=
  fun _ => reaches_behind fun _ j le => (blocks.block j).imp fun _ _ spread => spread.mono le

theorem spreads_wordBlock (text : String) : (wordBlock g text).Spreads tokens id :=
  fun _ => reaches_or (reaches_complain _) (reaches_behind fun _ j le =>
    (spreads_demandedBody blocks j).imp fun _ _ spread => spread.mono le)

/-- A block that may be missing. -/
theorem spreads_otherBlock (text : String) : (optional (wordBlock g text)).Spreads tokens fun ss => ss.getD [] :=
  fun i => reaches_optional (spreads_wordBlock blocks text i) (.nil (Nat.le_refl i))

theorem spreads_orelse : (orelse g).Spreads tokens id :=
  fun i => reaches_or (reaches_bind ((blocks.elif i).imp fun _ _ spread => reaches_pure spread))
    (reaches_map (spreads_otherBlock blocks "else" i))

theorem spreads_conditionBlock (text : String) : (conditionBlock g text).Spreads tokens fun s => [s] := by
  refine fun i => reaches_or (reaches_complain _) (reaches_bind (reaches_word fun t found inner => ?_))
  refine reaches_behind fun _ j le => reaches_bind ((spreads_body blocks j).imp fun b k first => ?_)
  refine reaches_bind ((spreads_orelse blocks k).imp fun o l next => reaches_pure ?_)
  exact .statement (Or.inl rfl) (Nat.le_refl i) found inner rfl rfl (fun _ => nofun) ((first.blocks next).mono le)

theorem spreads_whileStatement : (whileStatement g).Spreads tokens fun s => [s] := by
  refine fun i => reaches_or (reaches_complain _) (reaches_bind (reaches_word fun t found inner => ?_))
  refine reaches_behind fun _ j le => reaches_bind ((spreads_body blocks j).imp fun b k first => ?_)
  refine reaches_bind ((spreads_otherBlock blocks "else" k).imp fun o l next => reaches_pure ?_)
  exact .statement (Or.inl rfl) (Nat.le_refl i) found inner rfl rfl (fun _ => nofun) ((first.blocks next).mono le)

omit blocks

/-- An origin is that of the token at an index, which was consumed. -/
def StartsAt (tokens : Array Token) (i : Nat) (o : Origin) (j : Nat) : Prop :=
  ∃ t, tokens[i]? = some t ∧ t.isInner = true ∧ o = t.origin ∧ i < j

theorem reaches_loopHead :
    Reaches (loopHead g) ⟨tokens, false⟩ i fun head j => StartsAt tokens.tokens i head.1 j := by
  refine reaches_bind (reaches_here fun t found inner => reaches_behind fun _ j le => ?_)
  refine reaches_bind (reaches_word fun _ _ _ => reaches_behind fun _ k le' => reaches_behind fun _ l le'' => ?_)
  exact reaches_pure ⟨t, found, inner, rfl, by omega⟩

theorem reaches_withStart :
    Reaches withStart ⟨tokens, false⟩ i fun head j => StartsAt tokens.tokens i head.1 j := by
  refine reaches_bind (reaches_here fun t found inner => reaches_behind fun _ j le => ?_)
  exact reaches_bind (reaches_word fun _ _ _ => reaches_pure ⟨t, found, inner, rfl, by omega⟩)

include blocks

theorem spreads_forStatement : (forStatement g).Spreads tokens fun s => [s] := by
  refine fun i => reaches_or (reaches_complain _) (reaches_commit (reaches_loopHead.imp ?_) (reaches_complain _))
  rintro ⟨_, isAsync, target⟩ j ⟨t, found, inner, rfl, used⟩
  refine reaches_behind fun _ k le => reaches_bind ((spreads_body blocks k).imp fun b l first => ?_)
  refine reaches_bind ((spreads_otherBlock blocks "else" l).imp fun o _ next => reaches_pure ?_)
  exact .statement (Or.inl rfl) (Nat.le_refl i) found inner rfl rfl (fun _ => nofun)
    ((first.blocks next).mono (by omega))

theorem spreads_withStatement : (withStatement g).Spreads tokens fun s => [s] := by
  refine fun i => reaches_or (reaches_complain _) (reaches_or ?_ (reaches_or ?_ (reaches_complain _)))
  all_goals
    refine reaches_bind (reaches_withStart.imp ?_)
    rintro ⟨_, isAsync⟩ j ⟨t, found, inner, rfl, used⟩
    refine reaches_behind fun _ k le => reaches_bind ((spreads_body blocks k).imp fun b l first => reaches_pure ?_)
    exact .statement (Or.inl rfl) (Nat.le_refl i) found inner rfl rfl (fun _ => nofun) (first.mono (by omega))

theorem spreads_handler (grouped : Bool) : (handler g grouped).Spreads tokens Handler.block := by
  refine fun i => reaches_or (reaches_complain _) (reaches_or ?_ (reaches_or ?_ (reaches_complain _)))
  · refine reaches_behind fun _ j le => reaches_behind fun _ k le' => reaches_behind fun _ l le'' => ?_
    exact reaches_bind ((spreads_body blocks l).imp fun b _ inside => reaches_pure (inside.mono (by omega)))
  · refine reaches_ite (reaches_bind reaches_fail) (reaches_behind fun _ j le => ?_)
    exact reaches_bind ((spreads_body blocks j).imp fun b _ inside => reaches_pure (inside.mono le))

theorem spreads_handlers (grouped : Bool) : (handlers g grouped).Spreads tokens fun answer =>
    answer.2.1.flatMap Handler.block ++ answer.2.2.1 ++ answer.2.2.2 := by
  intro i
  have all : Reaches (many1 (handler g grouped)) ⟨tokens, false⟩ i fun hs j =>
      Spread tokens.tokens i (stmtsWithin (hs.flatMap Handler.block)) j :=
    reaches_many1 (fun i hs j => Spread tokens.tokens i (stmtsWithin (hs.flatMap Handler.block)) j)
      (spreads_handler blocks grouped) (fun i => .nil (Nat.le_refl i)) fun _ _ _ _ _ first next => first.blocks next
  refine reaches_bind (all.imp fun hs j first => ?_)
  refine reaches_bind ((spreads_otherBlock blocks "else" j).imp fun o k next => ?_)
  exact reaches_bind ((spreads_otherBlock blocks "finally" k).imp fun f l last =>
    reaches_pure ((first.blocks next).blocks last))

theorem spreads_tryStatement : (tryStatement g).Spreads tokens fun s => [s] := by
  refine fun i => reaches_or (reaches_complain _) (reaches_bind (reaches_word fun t found inner => ?_))
  refine reaches_bind ((spreads_demandedBody blocks (i + 1)).imp fun b j first => ?_)
  refine reaches_bind (p := _ <|> _) ((reaches_or ?_ (reaches_or (spreads_handlers blocks false j)
    (spreads_handlers blocks true j))).imp ?_)
  · exact reaches_bind ((spreads_wordBlock blocks "finally" j).imp fun final k last => reaches_pure last)
  · rintro ⟨grouped, hs, o, final⟩ k next
    refine reaches_pure (.statement (Or.inl rfl) (Nat.le_refl i) found inner rfl rfl (fun _ => nofun) ?_)
    have together : (Stmt.tryBlock t.place grouped b hs o final).inner =
        b ++ (hs.flatMap Handler.block ++ o ++ final) := by
      rw [Stmt.inner, List.append_assoc, List.append_assoc, List.append_assoc]
      rfl
    rw [together]
    exact first.blocks next

theorem spreads_matchStatement : (matchStatement g).Spreads tokens fun s => [s] := by
  have one : (matchCase g).Spreads tokens MatchCase.block := by
    refine fun i => reaches_or (reaches_complain _) (reaches_behind ?_)
    rintro ⟨_, pattern, guard⟩ j le
    exact reaches_bind ((spreads_body blocks j).imp fun b _ inside => reaches_pure (inside.mono le))
  have all (i : Nat) : Reaches (many1 (matchCase g)) ⟨tokens, false⟩ i fun cs j =>
      Spread tokens.tokens i (stmtsWithin (cs.flatMap MatchCase.block)) j :=
    reaches_many1 (fun i cs j => Spread tokens.tokens i (stmtsWithin (cs.flatMap MatchCase.block)) j)
      one (fun i => .nil (Nat.le_refl i)) fun _ _ _ _ _ first next => first.blocks next
  refine fun i => reaches_or (reaches_bind (reaches_softWord fun t found inner => ?_)) (reaches_complain _)
  iterate 4 refine reaches_behind fun _ _ _ => ?_
  refine reaches_bind ((all _).imp fun cs j inside => reaches_behind fun _ _ after => reaches_pure ?_)
  exact .statement (Or.inl rfl) (Nat.le_refl i) found inner rfl rfl (fun _ => nofun)
    ((inside.mono (by omega)).extend after)

theorem spreads_block : (block g).Spreads tokens id := by
  refine fun i => reaches_memoBlock rfl
    (reaches_or ?_ (reaches_or (spreads_simpleStatements blocks i) (reaches_complain _)))
  refine reaches_behind fun _ j le => reaches_behind fun _ k le' => ?_
  refine reaches_bind ((blocks.statements k).imp fun ss l inside => ?_)
  exact reaches_behind fun _ _ after => reaches_pure ((inside.mono (Nat.le_trans le le')).extend after)

/-- A class stands at its own keyword. -/
theorem reaches_classStatement {ds : List Decorator} {j : Nat} (lead : Decorated tokens.tokens i j ds) (le : i ≤ j) :
    Reaches (classStatement g ds) ⟨tokens, false⟩ j fun s k => Spread tokens.tokens i (stmtsWithin [s]) k := by
  have head : Reaches (classHead g) ⟨tokens, false⟩ j fun head k =>
      (tokens.tokens[j]? = some head.1 ∧ head.1.isInner = true ∧ j < k) ∧
        TokenName tokens.tokens (Text.ofString head.2.1.text) := by
    refine reaches_bind (reaches_word fun t found inner => ?_)
    refine reaches_bind (reaches_tokenName fun _ name => reaches_behind fun _ _ _ => ?_)
    exact reaches_pure ⟨⟨found, inner, by omega⟩, name⟩
  refine reaches_or (reaches_complain _) (reaches_bind (head.imp ?_))
  rintro ⟨t, n, arguments⟩ k ⟨⟨found, inner, used⟩, name⟩
  refine reaches_bind ((spreads_body blocks k).imp fun b l inside => reaches_pure ?_)
  exact .statement lead le found inner rfl rfl (fun _ same => Option.some.inj same ▸ name) (inside.mono used)

/-- A function stands at its own keyword, or at the one in front that makes it asynchronous. -/
theorem reaches_functionStatement {ds : List Decorator} {j : Nat} (lead : Decorated tokens.tokens i j ds)
    (le : i ≤ j) :
    Reaches (functionStatement g ds) ⟨tokens, false⟩ j fun s k => Spread tokens.tokens i (stmtsWithin [s]) k := by
  refine reaches_or (reaches_complain _) (reaches_bind (reaches_here fun t found inner => ?_))
  refine reaches_behind fun _ _ _ => reaches_bind (reaches_word fun _ _ _ => ?_)
  refine reaches_bind (reaches_tokenName fun _ name => ?_)
  iterate 4 refine reaches_behind fun _ _ _ => ?_
  refine reaches_bind ((spreads_demandedBody blocks _).imp fun b _ inside => reaches_pure ?_)
  exact .statement lead le found inner rfl rfl (fun _ same => Option.some.inj same ▸ name) (inside.mono (by omega))

omit blocks

/-- The places in a decorator are those of tokens. -/
theorem recorded_of_within {ts : Array Token} {j : Nat} {e : Parsed} (within : e.Within ts i j) :
    ∀ p ∈ (Decorator.mk e.origin.place e.expr).recorded, StandsIn ts i j p := by
  intro p member
  rcases List.mem_cons.mp member with rfl | argument
  · exact within.origin
  · obtain ⟨k, given, part⟩ := List.mem_flatMap.mp argument
    have inside := within.keywords k given
    rcases List.mem_cons.mp part with rfl | deeper
    · exact inside.place
    · obtain ⟨l, inner, rfl⟩ := List.mem_map.mp deeper
      exact inside.inner l inner

theorem reaches_decorators [g.Traced tokens] : Reaches (decorators g) ⟨tokens, false⟩ i fun ds j =>
    i ≤ j ∧ Decorated tokens.tokens i j ds := by
  have one (i : Nat) : Reaches (do
      let _ ← op "@"
      let e ← afresh (g .namedExpression)
      let _ ← kind .newline
      pure (Decorator.mk e.origin.place e.expr)) ⟨tokens, false⟩ i fun d j => ∃ t, tokens.tokens[i]? = some t ∧
        t.isInner = true ∧ ∀ p ∈ d.recorded, StandsIn tokens.tokens (i + 1) j p := by
    refine reaches_bind (reaches_op fun t found inner => ?_)
    refine reaches_bind ((Locates.traces (i + 1)).reaches_afresh.imp fun e j within => ?_)
    refine reaches_behind fun _ k le => reaches_pure ⟨t, found, inner, fun p member => ?_⟩
    exact (recorded_of_within within p member).mono (Nat.le_refl _) le
  refine reaches_many1 (fun i ds j => i ≤ j ∧ Decorated tokens.tokens i j ds) one
    (fun i => ⟨Nat.le_refl i, Or.inl rfl⟩) ?_
  rintro i d j ds k ⟨t, found, inner, own⟩ ⟨le, others⟩
  obtain ⟨l, _, lower, upper, _⟩ := own d.place List.mem_cons_self
  refine ⟨by omega, Or.inr ⟨t, found, inner, List.forall_mem_cons.mpr ⟨fun p part => ?_, fun e member p part => ?_⟩⟩⟩
  · exact (own p part).mono (Nat.le_refl _) le
  · rcases others with rfl | ⟨_, _, _, stand⟩
    · cases member
    · exact (stand e member p part).mono (by omega) (Nat.le_refl k)

theorem spreads_decorated [g.Traced tokens] {p : List Decorator → Parser Stmt}
    (each : ∀ ds i j, Decorated tokens.tokens i j ds → i ≤ j →
      Reaches (p ds) ⟨tokens, false⟩ j fun s k => Spread tokens.tokens i (stmtsWithin [s]) k) :
    (decorated g p).Spreads tokens fun s => [s] :=
  fun i => reaches_or (reaches_bind (reaches_decorators.imp fun ds j ⟨le, lead⟩ => each ds i j lead le))
    (each [] i i (Or.inl rfl) (Nat.le_refl i))

include blocks

theorem spreads_compoundStatement [g.Traced tokens] : (compoundStatement g).Spreads tokens fun s => [s] := by
  refine fun i => reaches_bind (reaches_peek fun t _ => ?_)
  refine reaches_or (reaches_ite (spreads_decorated (fun _ _ _ => reaches_functionStatement blocks) i) reaches_fail) ?_
  refine reaches_or (reaches_ite (spreads_conditionBlock blocks "if" i) reaches_fail) ?_
  refine reaches_or (reaches_ite (spreads_decorated (fun _ _ _ => reaches_classStatement blocks) i) reaches_fail) ?_
  refine reaches_or (reaches_ite (spreads_withStatement blocks i) reaches_fail) ?_
  refine reaches_or (reaches_ite (spreads_forStatement blocks i) reaches_fail) ?_
  refine reaches_or (reaches_ite (spreads_tryStatement blocks i) reaches_fail) ?_
  exact reaches_or (reaches_ite (spreads_whileStatement blocks i) reaches_fail) (spreads_matchStatement blocks i)

theorem spreads_statements [g.Traced tokens] : (statements g).Spreads tokens id := by
  have one : (afresh (statement g)).Spreads tokens id :=
    fun i => reaches_afresh (reaches_or (reaches_bind ((spreads_compoundStatement blocks i).imp fun _ _ inside =>
      reaches_pure inside)) (spreads_simpleStatements blocks i))
  intro i
  have all : Reaches (many1 (afresh (statement g))) ⟨tokens, false⟩ i fun sss j =>
      Spread tokens.tokens i (stmtsWithin sss.flatten) j :=
    reaches_many1 (fun i sss j => Spread tokens.tokens i (stmtsWithin sss.flatten) j) one
      (fun i => .nil (Nat.le_refl i)) fun _ _ _ _ _ first next => first.blocks next
  exact reaches_bind (all.imp fun _ _ inside => reaches_pure inside)

theorem reaches_singleTarget : Reaches (singleTarget g) ⟨tokens, false⟩ i fun e j =>
    e.Targets tokens.tokens i j :=
  reaches_or reaches_placeInside (reaches_or reaches_nameTarget
    (reaches_between fun j le => (blocks.singleTarget j).imp fun _ _ stands _ le' => stands.mono le le'))

end Statements

/-- Tying the rules together keeps statements spread, with any number of levels. -/
theorem spreads_rulesOver {tokens : Tokens} (field : Parser Parsed) (levels : Nat) :
    (rulesOver field levels).Spreads tokens := by
  induction levels with
  | zero => exact ⟨fun _ => reaches_raise, fun _ => reaches_raise, fun _ => reaches_raise, fun _ => reaches_raise⟩
  | succ levels ih =>
    exact {
      block := spreads_block ih
      statements := spreads_statements ih
      elif := spreads_conditionBlock ih "elif"
      singleTarget := fun _ => reaches_singleTarget ih }

theorem reaches_wholeModule {tokens : Tokens} {i : Nat} : Reaches (wholeModule rules) ⟨tokens, false⟩ i fun ss _ =>
    ∃ j, Spread tokens.tokens i (stmtsWithin ss) j := by
  have content : Reaches (optional (statements rules)) ⟨tokens, false⟩ i fun ss j =>
      Spread tokens.tokens i (stmtsWithin (ss.getD [])) j :=
    reaches_optional (spreads_statements (spreads_rulesOver _ _) i) (.nil (Nat.le_refl i))
  exact reaches_bind (content.imp fun ss j inside => reaches_behind fun _ _ _ => reaches_pure ⟨j, inside⟩)

end Grammar

namespace Module

variable {source : Text} {m : Module}

theorem spread_of_parse (parsed : Module.parse source = .ok m) :
    ∃ cs ≠ [], ∃ j, Spread (Tokens.ofSource cs).tokens 0 (stmtsWithin m.body) j := by
  obtain ⟨cs, _, parsed⟩ := bind_eq_ok.mp parsed
  obtain ⟨body, read, same⟩ := bind_eq_ok.mp parsed
  cases same
  obtain ⟨_, j, spread⟩ := Attempt.of_run (a := ⟨Grammar.wholeModule Grammar.rules, []⟩)
    Grammar.reaches_wholeModule (mapError_eq_ok.mp read)
  exact ⟨_, Source.closedLines_ne_nil cs, j, spread⟩

/-- What is recorded in the statements of a module that was parsed is in order. -/
theorem recorded_of_parse (parsed : Module.parse source = .ok m) :
    (stmtsWithin m.body).Pairwise fun s t => ∀ p ∈ s.recorded, ∀ q ∈ t.recorded, p.Before q := by
  obtain ⟨cs, _, _, spread⟩ := spread_of_parse parsed
  exact spread.pairwise (Tokens.pairwise_ofSource cs)

/-- Nothing that a decorated declaration records stands at the start of the source. -/
theorem start_before_recorded (parsed : Module.parse source = .ok m) {s : Stmt} (member : s ∈ stmtsWithin m.body)
    (decorated : s.decorators ≠ []) : ∀ p ∈ s.recorded, Pos.start.Before p := by
  obtain ⟨cs, some, _, spread⟩ := spread_of_parse parsed
  exact spread.behind (Tokens.pairwise_ofSource cs) (Tokens.start_atMost some) member decorated

end Module

end FluentRecords
