import FluentRecords.Proofs.Syntax.Tracing
import FluentRecords.Syntax.Grammar.Knot

/-!
The places of expressions, rule by rule. Every rule for expressions answers one that begins at a token consumed for it,
and so do the keyword arguments of a call; the rules for their parts keep a memory sound. This holds over any rules of
which it is known, and so with any number of levels.
-/

namespace FluentRecords

open FluentRecords.Parser

/-- Rules whose expressions begin at tokens consumed for them. -/
class Rules.Traced (tokens : Tokens) (g : Rules) : Prop where
  expression : Locates tokens (g .expression)
  disjunction : Locates tokens (g .disjunction)
  inversion : Locates tokens (g .inversion)
  factor : Locates tokens (g .factor)
  bitwiseOr : Locates tokens (g .bitwiseOr)
  namedExpression : Locates tokens (g .namedExpression)
  starExpression : Locates tokens (g .starExpression)
  starNamedExpression : Locates tokens (g .starNamedExpression)
  starExpressions : Locates tokens (g .starExpressions)
  yieldExpression : Locates tokens (g .yieldExpression)
  slices : Locates tokens (g .slices)
  starTarget : Locates tokens (g .starTarget)
  starTargets : Locates tokens (g .starTargets)
  plainTarget : Locates tokens (g .plainTarget)
  starNamedExpressions : Sound tokens (g .starNamedExpressions)
  clauses : Sound tokens (g .clauses)
  lambdaParams : Sound tokens (g .lambdaParams)
  arguments : ∀ i, Traces tokens (g .arguments) i fun a j => ∀ k ∈ a.keywords, k.Within tokens.tokens i j

attribute [instance] Rules.Traced.expression Rules.Traced.disjunction Rules.Traced.inversion Rules.Traced.factor
  Rules.Traced.bitwiseOr Rules.Traced.namedExpression Rules.Traced.starExpression Rules.Traced.starNamedExpression
  Rules.Traced.starExpressions Rules.Traced.yieldExpression Rules.Traced.slices Rules.Traced.starTarget
  Rules.Traced.starTargets Rules.Traced.plainTarget Rules.Traced.starNamedExpressions Rules.Traced.clauses
  Rules.Traced.lambdaParams

variable {tokens : Tokens} {g : Rules} {i : Nat}

instance [each : g.Traced tokens] : Sound tokens (g .arguments) :=
  .of_traces each.arguments

namespace Parser

variable {α : Type}

instance : Sound tokens lastSeen? :=
  ⟨fun _ _ sound => ⟨sound, trivial⟩⟩

instance {k : SyntaxKind} {o : Origin} {message : Text} : Sound tokens (raiseKindAt k o message : Parser α) := by
  unfold raiseKindAt
  infer_instance

instance {o : Origin} {message : Text} : Sound tokens (raiseAt o message : Parser α) := by
  unfold raiseAt
  infer_instance

instance {t : Token} {message : Text} : Sound tokens (raiseAtToken t message : Parser α) := by
  unfold raiseAtToken
  infer_instance

theorem traces_raiseHere {message : Text} {holds : α → Nat → Prop} : Traces tokens (raiseHere message) i holds := by
  refine traces_behind fun t j _ => ?_
  cases t with
  | none => exact traces_raise
  | some t => exact traces_ite traces_raise traces_raise

instance {message : Text} : Sound tokens (raiseHere message : Parser α) :=
  ⟨fun _ => traces_raiseHere⟩

/-- Nothing is parsed behind a fault. -/
theorem sound_raised {β : Type} {message : Text} {f : β → Parser α} : Sound tokens (raiseHere message >>= f) := by
  have never (i : Nat) : Traces tokens (raiseHere message) i fun (_ : β) _ => False := traces_raiseHere
  exact ⟨fun i => traces_then (never i) fun _ _ _ none => none.elim⟩

end Parser

namespace Grammar

/-! Literals. The fields of a formatted string are parsed on their own, with a memory of their own. -/

section Literals

open Formatted

variable {α : Type} {e : Parser Parsed} {raw : Bool} {line : Nat}

instance {r : Except Text α} : Sound tokens (reading r) := by
  unfold reading
  split <;> infer_instance

instance {cs : List Char} : Sound tokens (stretchText raw cs) := by
  unfold stretchText
  infer_instance

instance {cs : List Char} {stop : Char} : Sound tokens (parseField e line cs stop) := by
  unfold parseField
  refine ⟨fun i => traces_ite (traces_ite (Sound.traces i) (Sound.traces i)) ?_⟩
  dsimp only
  split
  · exact traces_pure trivial
  · exact fun _ _ => trivial

theorem sound_parts {lineOf : List Char → Nat} (level : Nat) (cs : List Char) (fuel : Nat) :
    Sound tokens (parts e raw lineOf level cs fuel) := by
  induction fuel generalizing level cs with
  | zero => exact ⟨fun _ => traces_fail⟩
  | succ fuel ih =>
    unfold parts
    refine sound_behind fun s => sound_behind fun t => ?_
    split
    · refine sound_behind ?_
      rintro ⟨more, rest⟩
      infer_instance
    split
    · infer_instance
    · infer_instance
    dsimp only
    split
    case isTrue => exact sound_raised
    refine sound_behind ?_
    rintro ⟨source, after⟩
    refine sound_behind fun value => sound_behind ?_
    rintro ⟨conv, after⟩
    dsimp only
    split
    case' h_1 =>
      refine sound_behind ?_
      rintro ⟨format, after⟩
    all_goals
      refine sound_behind ?_
      rintro ⟨part, after⟩
      dsimp only
      split
      · refine sound_behind ?_
        rintro ⟨more, rest⟩
        infer_instance
      · infer_instance

instance {body : List Char} : Sound tokens (Formatted.parse e raw line body) := by
  unfold Formatted.parse
  have all := @sound_parts tokens e raw
  refine sound_behind ?_
  rintro ⟨ps, rest⟩
  infer_instance

instance : Locates tokens number := by
  refine locates_kind (by decide) fun t => ?_
  split
  · exact plain_pure rfl rfl
  · exact plain_raise

instance {bytes : Bool} {t : Token} : Sound tokens (piece g bytes t) := by
  unfold piece
  dsimp only
  split
  · infer_instance
  split
  · split
    · refine sound_behind fun _ => ?_
      split <;> infer_instance
    · split <;> infer_instance
  · infer_instance

instance {bytes : Bool} {ts : List Token} : Sound tokens (pieces g bytes ts) := by
  induction ts with
  | nil => exact ⟨fun _ => traces_pure trivial⟩
  | cons t rest ih =>
    unfold pieces
    infer_instance

instance : Locates tokens (strings g) := by
  refine locates_memo (locates_kind (by decide) fun t => plain_behind fun ts => plain_behind fun ps => plain_pure rfl ?_)
  dsimp only [Parsed.leaf, Parsed.expr]
  split
  · rfl
  · split <;> rfl

end Literals

/-! What begins with a name or an opening bracket. -/

section Atoms

variable [g.Traced tokens]

instance : Locates tokens (assignmentExpression g) :=
  locates_name fun _ => plain_behind fun _ => plain_behind fun _ => plain_pure rfl rfl

instance : Locates tokens (unnamed g) :=
  locates_before

instance : Locates tokens (starredExpression g) :=
  locates_op fun _ => plain_behind fun _ => plain_pure rfl rfl

instance : Locates tokens (tupleDisplay g) :=
  locates_here fun _ => plain_behind fun _ => plain_pure rfl rfl

instance : Locates tokens (group g) := by
  unfold group
  infer_instance

instance : Locates tokens (wrongComprehension g) := by
  unfold wrongComprehension
  infer_instance

theorem locates_comprehension {opening closing : String} {elem : Parser Parsed} [Sound tokens elem]
    {build : Expr → List Clause → Expr} (plain : ∀ e cs, (build e cs).keywords = []) :
    Locates tokens (comprehension g opening closing elem build) :=
  locates_or (locates_here fun _ => plain_behind fun ⟨e, cs⟩ => plain_pure rfl (plain e.expr cs)) inferInstance

instance : Locates tokens (generator g) :=
  locates_comprehension fun _ _ => rfl

instance : Locates tokens (listDisplay g) :=
  locates_here fun _ => plain_behind fun _ => plain_pure rfl rfl

instance : Locates tokens (setDisplay g) :=
  locates_here fun _ => plain_behind fun _ => plain_pure rfl rfl

instance : Sound tokens (keyValue g) := by
  unfold keyValue
  infer_instance

instance : Sound tokens (dictItem g) := by
  unfold dictItem
  infer_instance

instance : Locates tokens (dictDisplay g) :=
  locates_or (locates_here fun _ => plain_behind fun _ => plain_pure rfl rfl) inferInstance

instance : Locates tokens (dictComprehension g) :=
  locates_or (locates_here fun _ => plain_behind fun ⟨⟨_, _⟩, _⟩ => plain_pure rfl rfl) inferInstance

theorem plain_wordConstant (t : Token) : Plain tokens t.origin (wordConstant t) :=
  plain_ite (plain_pure rfl rfl) (plain_ite (plain_pure rfl rfl) (plain_ite (plain_pure rfl rfl) plain_fail))

theorem traces_bracketed {t : Token} (stands : StandsIn tokens.tokens i i t.place) :
    Traces tokens (bracketed g t) i fun e j => e.Within tokens.tokens i j := by
  refine traces_ite (Locates.traces i) (traces_ite ?_ (traces_ite ?_ (traces_ite ?_ traces_fail)))
  · exact (locates_or inferInstance (locates_comprehension fun _ _ => rfl)).traces i
  · exact (locates_or inferInstance (locates_or inferInstance (locates_or inferInstance
      (locates_comprehension fun _ _ => rfl)))).traces i
  · exact traces_behind fun _ _ le => traces_pure (Parsed.PlainAt.within ⟨rfl, rfl⟩ (stands.mono (Nat.le_refl i) le))

instance : Locates tokens (atom g) := by
  refine ⟨fun i => traces_then traces_found ?_⟩
  rintro t _ _ ⟨rfl, found⟩
  have stands (inner : t.kind ∈ [TokenKind.name, .keyword, .number, .string, .operator]) :
      StandsIn tokens.tokens i i t.place := .of_token found (Token.isInner_of_kind (beq_self_eq_true t.kind) inner)
  split
  case h_1 same =>
    have stands := stands (by rw [same]; decide)
    exact traces_behind fun _ _ le => traces_pure (Parsed.PlainAt.within ⟨rfl, rfl⟩ (stands.mono (Nat.le_refl _) le))
  case h_2 same =>
    have stands := stands (by rw [same]; decide)
    exact traces_behind fun _ j le => (plain_wordConstant t j).imp fun e k le' plain =>
      plain.within (stands.mono (Nat.le_refl _) (Nat.le_trans le le'))
  case h_3 => exact Locates.traces _
  case h_4 => exact Locates.traces _
  case h_5 same => exact traces_bracketed (stands (by rw [same]; decide))
  case h_6 => exact traces_fail

section

variable {o : Origin} {a : Parsed}

theorem plain_attributeOf : Plain tokens o (attributeOf o a) :=
  plain_behind fun _ => plain_behind fun _ => plain_pure rfl rfl

theorem plain_subscriptOf : Plain tokens o (subscriptOf g o a) :=
  plain_behind fun _ => plain_pure rfl rfl

/-- The arguments of a call with their brackets. -/
theorem traces_bracketedArguments : Traces tokens (between "(" (optional (g .arguments)) ")") i fun arguments j =>
    ∀ as ∈ arguments, ∀ k ∈ as.keywords, k.Within tokens.tokens i j := by
  refine traces_behind fun _ j le => ?_
  have inside : Traces tokens (optional (g .arguments)) j fun arguments k =>
      ∀ as ∈ arguments, ∀ x ∈ as.keywords, x.Within tokens.tokens j k :=
    traces_optional ((Rules.Traced.arguments j).imp fun as k _ within bs same => Option.some.inj same ▸ within)
      fun _ none => by cases none
  refine traces_then inside fun arguments k _ within => traces_behind fun _ l le' => traces_pure ?_
  exact fun as same x member => (within as same x member).mono le le'

/-- The keyword arguments of a call begin behind the value that is called. -/
theorem extends_callOf : Extends tokens o a (callOf g o a) := by
  refine extends_or (Plain.extends (plain_behind fun _ => plain_pure rfl rfl)) ?_
  intro i₀ i le stands _
  refine traces_then traces_bracketedArguments fun arguments j le' within => ?_
  have begins := stands.mono (Nat.le_refl i₀) (Nat.le_trans le le')
  split
  · exact traces_pure ⟨begins, fun k member => (within _ rfl k member).mono le (Nat.le_refl j)⟩
  · exact traces_pure (Parsed.PlainAt.within ⟨rfl, rfl⟩ begins)

end

instance : Locates tokens (primary g) :=
  locates_memo (locates_from fun _ _ => extends_grow fun _ =>
    extends_or plain_attributeOf.extends (extends_or extends_callOf plain_subscriptOf.extends))

instance : Locates tokens (awaited g) :=
  locates_memo (locates_or (locates_word fun _ => plain_behind fun _ => plain_pure rfl rfl) inferInstance)

end Atoms

/-! Operators. -/

section Operators

instance {level : OperatorLevel} : Sound tokens (operatorOf level) := by
  refine sound_behind fun t => ?_
  split <;> infer_instance

instance : Sound tokens compareOp := by
  refine sound_behind fun t => ?_
  split <;> infer_instance

theorem locates_binaryLevel {rule : Kept} {level : OperatorLevel} {operand : Parser Parsed} [Locates tokens operand] :
    Locates tokens (binaryLevel rule level operand) :=
  locates_memo (locates_from fun _ _ => extends_grow fun _ =>
    Plain.extends (plain_behind fun _ => plain_behind fun _ => plain_pure rfl rfl))

theorem locates_boolLevel {rule : Kept} {text : String} {bop : BoolOp} {operand : Parser Parsed}
    [Locates tokens operand] : Locates tokens (boolLevel rule text bop operand) :=
  locates_memo (locates_from fun _ _ => extends_behind fun _ =>
    extends_ite extends_self (Plain.extends (plain_pure rfl rfl)))

variable [g.Traced tokens]

instance : Locates tokens (power g) :=
  locates_from fun _ _ =>
    extends_or (Plain.extends (plain_behind fun _ => plain_behind fun _ => plain_pure rfl rfl)) extends_self

/-- A sign is an operator. -/
theorem isInner_of_signOf {t : Token} {sign : UnaryOp} (signed : signOf t = some sign) : t.isInner = true := by
  unfold signOf at signed
  split at signed
  · cases signed
  · rename_i operator
    rw [bne, Bool.not_eq_true', Bool.not_eq_false] at operator
    exact Token.isInner_of_kind operator (by decide)

instance : Locates tokens (factor g) := by
  refine locates_memo ⟨fun i => traces_then traces_found ?_⟩
  rintro t _ _ ⟨rfl, found⟩
  split
  case h_1 sign same =>
    have stands : StandsIn tokens.tokens i i t.place := .of_token found (isInner_of_signOf same)
    exact traces_behind fun _ _ le => traces_behind fun _ _ le' => traces_pure (Parsed.PlainAt.within ⟨rfl, rfl⟩
      (stands.mono (Nat.le_refl i) (Nat.le_trans le le')))
  case h_2 => exact Locates.traces i

instance : Locates tokens (term g) :=
  locates_binaryLevel

instance : Locates tokens (sum g) :=
  locates_binaryLevel

instance : Locates tokens (shift g) :=
  locates_binaryLevel

instance : Locates tokens (bitwiseAnd g) :=
  locates_binaryLevel

instance : Locates tokens (bitwiseXor g) :=
  locates_binaryLevel

instance : Locates tokens (bitwiseOr g) :=
  locates_binaryLevel

instance : Locates tokens (comparison g) :=
  locates_from fun _ _ => extends_behind fun _ => extends_ite extends_self (Plain.extends (plain_pure rfl rfl))

instance : Locates tokens (inversion g) :=
  locates_memo (locates_or (locates_word fun _ => plain_behind fun _ => plain_pure rfl rfl) inferInstance)

instance : Locates tokens (conjunction g) :=
  locates_boolLevel

instance : Locates tokens (disjunction g) :=
  locates_boolLevel

end Operators

/-! Targets. -/

section Targets

variable [g.Traced tokens]

instance : Sound tokens goesOn := by
  unfold goesOn
  infer_instance

instance : Locates tokens (targetPrimary g) :=
  have : Locates tokens (do let a ← atom g; ahead goesOn; pure a) := locates_before
  locates_memo (locates_from fun _ _ => extends_grow fun _ =>
    extends_or plain_attributeOf.extends.before
      (extends_or plain_subscriptOf.extends.before extends_callOf.before))

instance : Locates tokens (placeInside g) :=
  locates_from fun _ _ => (extends_or plain_attributeOf.extends plain_subscriptOf.extends).before

instance : Locates tokens nameTarget :=
  locates_name fun _ => plain_pure rfl rfl

instance : Locates tokens (targetTuple g) :=
  locates_here fun _ => plain_behind fun _ => plain_pure rfl rfl

instance : Locates tokens (targetList g) :=
  locates_here fun _ => plain_behind fun _ => plain_pure rfl rfl

instance : Locates tokens (plainTarget g) := by
  unfold plainTarget
  infer_instance

instance : Locates tokens (starTarget g) :=
  locates_memo (locates_or (locates_op fun _ => plain_behind fun _ => plain_behind fun _ => plain_pure rfl rfl)
    inferInstance)

instance : Locates tokens (starTargets g) :=
  locates_from fun _ _ => extends_behind fun _ => extends_behind fun _ =>
    extends_ite extends_self (Plain.extends (plain_pure rfl rfl))

end Targets

/-! The parameters of lambda expressions. -/

section Parameters

open ParamForm

variable [g.Traced tokens]

instance {type : Parser (Option Expr)} [Sound tokens type] : Sound tokens (annotatedParam type) := by
  unfold annotatedParam
  infer_instance

section

variable {f : ParamForm}

instance : Sound tokens f.separated := by
  unfold separated
  infer_instance

instance : Sound tokens (ParamForm.default g) := by
  unfold ParamForm.default
  infer_instance

variable [Sound tokens f.param] [Sound tokens f.unpackedRest]

instance : Sound tokens f.plainParam := by
  unfold plainParam
  infer_instance

instance : Sound tokens f.withoutDefault := by
  unfold withoutDefault
  infer_instance

instance : Sound tokens (f.withDefault g) := by
  unfold withDefault
  infer_instance

instance : Sound tokens (f.maybeDefault g) := by
  unfold maybeDefault
  infer_instance

instance : Sound tokens f.slash := by
  unfold slash
  infer_instance

instance : Sound tokens f.positional := by
  unfold positional
  infer_instance

instance : Sound tokens (f.positionalDefaults g) := by
  unfold positionalDefaults
  infer_instance

instance : Sound tokens f.keywordRest := by
  unfold keywordRest
  infer_instance

instance {p : Parser ParsedParam} [Sound tokens p] : Sound tokens (f.restParam g p) := by
  unfold restParam
  infer_instance

instance : Sound tokens (f.tail g) := by
  unfold tail
  infer_instance

instance : Sound tokens (f.params g) := by
  unfold params
  infer_instance

instance : Sound tokens (f.checked g) := by
  unfold checked
  infer_instance

end

instance : Sound tokens lambdaForm.param :=
  inferInstanceAs (Sound tokens (annotatedParam (pure none)))

instance : Sound tokens lambdaForm.unpackedRest :=
  inferInstanceAs (Sound tokens fail)

end Parameters

/-! Whole expressions. -/

section Expressions

variable [g.Traced tokens]

instance : Locates tokens (lambda g) :=
  locates_word fun _ => plain_behind fun _ => plain_behind fun _ => plain_behind fun _ => plain_pure rfl rfl

instance : Locates tokens (plainExpression g) :=
  locates_or (locates_from fun _ _ => extends_or (Plain.extends (plain_behind fun _ => plain_behind fun _ =>
    plain_behind fun _ => plain_behind fun _ => plain_pure rfl rfl)) extends_self) inferInstance

instance : Locates tokens (expression g) := by
  unfold expression
  infer_instance

instance : Locates tokens (wrongNamedExpression g) := by
  unfold wrongNamedExpression
  infer_instance

instance : Locates tokens (namedExpression g) := by
  unfold namedExpression
  infer_instance

instance : Locates tokens (starredValue g) :=
  locates_op fun _ => plain_behind fun _ => plain_pure rfl rfl

instance : Locates tokens (starExpression g) := by
  unfold starExpression
  infer_instance

instance : Locates tokens (starNamedExpression g) := by
  unfold starNamedExpression
  infer_instance

instance {elem : Parser Parsed} [Locates tokens elem] : Locates tokens (tupleOr elem) :=
  locates_from fun _ _ => extends_behind fun _ => extends_behind fun _ =>
    extends_ite extends_self (Plain.extends (plain_pure rfl rfl))

instance : Locates tokens (starExpressions g) := by
  unfold starExpressions
  infer_instance

instance : Locates tokens (yieldExpression g) :=
  locates_word fun _ => plain_or (plain_behind fun _ => plain_behind fun _ => plain_pure rfl rfl)
    (plain_behind fun _ => plain_pure rfl rfl)

instance : Locates tokens (slice g) :=
  locates_or (locates_here fun _ => plain_behind fun _ => plain_behind fun _ => plain_behind fun _ =>
    plain_behind fun _ => plain_pure rfl rfl) inferInstance

instance : Locates tokens (slices g) :=
  locates_or locates_before (locates_here fun _ => plain_behind fun _ => plain_pure rfl rfl)

instance : Sound tokens (loopHead g) := by
  unfold loopHead
  infer_instance

instance : Sound tokens (clause g) :=
  sound_commit fun ⟨_, _, _⟩ => inferInstance

instance : Sound tokens (clauses g) := by
  unfold clauses
  infer_instance

/-- A keyword argument begins at a token that was consumed for its value. -/
def Argument.Within (tokens : Array Token) (i j : Nat) : Argument → Prop
  | .keyword k => k.Within tokens i j
  | .starred _ => True

theorem Argument.Within.mono {ts : Array Token} {i i' j j' : Nat} {a : Argument} (within : a.Within ts i j)
    (lower : i' ≤ i) (upper : j ≤ j') : a.Within ts i' j' := by
  cases a with
  | keyword k => exact Keyword.Within.mono within lower upper
  | starred e => exact trivial

theorem traces_keywordArgument : Traces tokens (keywordArgument g) i fun a j => a.Within tokens.tokens i j := by
  refine traces_behind fun t j le => traces_behind fun _ k le' => ?_
  refine traces_then (Locates.traces k) fun e l _ within => traces_pure ?_
  exact (within.keyword _).mono (Nat.le_trans le le') (Nat.le_refl l)

theorem traces_keywordOrStarred : Traces tokens (keywordOrStarred g) i fun a j => a.Within tokens.tokens i j := by
  refine traces_or (traces_complain _) (traces_or traces_keywordArgument (traces_map ?_))
  exact (Sound.traces i).imp fun _ _ _ _ => trivial

theorem traces_keywordOrMapping : Traces tokens (keywordOrMapping g) i fun a j => a.Within tokens.tokens i j := by
  refine traces_or (traces_complain _) (traces_or traces_keywordArgument (traces_behind fun _ j le => ?_))
  refine traces_then (Locates.traces j) fun e k _ within => traces_pure ?_
  exact (within.keyword _).mono le (Nat.le_refl k)

theorem traces_keywordArguments :
    Traces tokens (keywordArguments g) i fun as j => ∀ a ∈ as, a.Within tokens.tokens i j := by
  have starred (i : Nat) : Traces tokens (sepBy1 (keywordOrStarred g) (op ",")) i fun as j =>
      ∀ a ∈ as, a.Within tokens.tokens i j := traces_sepBy1 Argument.Within.mono fun _ => traces_keywordOrStarred
  have mapping (i : Nat) : Traces tokens (sepBy1 (keywordOrMapping g) (op ",")) i fun as j =>
      ∀ a ∈ as, a.Within tokens.tokens i j := traces_sepBy1 Argument.Within.mono fun _ => traces_keywordOrMapping
  refine traces_or ?_ (traces_or (starred i) (mapping i))
  refine traces_then (starred i) fun as j le first => traces_behind fun _ k le' => ?_
  refine traces_then (mapping k) fun bs l le'' rest => traces_pure fun a member => ?_
  rcases List.mem_append.mp member with inside | inside
  · exact (first a inside).mono (Nat.le_refl i) (Nat.le_trans le' le'')
  · exact (rest a inside).mono (Nat.le_trans le le') (Nat.le_refl l)

instance : Sound tokens (keywordArguments g) :=
  .of_traces fun _ => traces_keywordArguments

instance : Sound tokens (positionalArgument g) := by
  unfold positionalArgument
  infer_instance

/-- The keyword arguments among arguments. -/
theorem within_ofLists {ts : Array Token} {j : Nat} {o : Origin} {args : List Parsed} {more : List Argument}
    (within : ∀ a ∈ more, a.Within ts i j) : ∀ k ∈ (ParsedArguments.ofLists o args more).keywords, k.Within ts i j := by
  intro k member
  obtain ⟨a, inside, same⟩ := List.mem_filterMap.mp member
  cases a with
  | keyword l =>
    cases same
    exact within _ inside
  | starred e => cases same

theorem traces_someArguments :
    Traces tokens (someArguments g) i fun a j => ∀ k ∈ a.keywords, k.Within tokens.tokens i j := by
  have more (i : Nat) : Traces tokens (optional (do let _ ← op ","; keywordArguments g)) i fun as j =>
      ∀ a ∈ as.getD [], a.Within tokens.tokens i j := by
    refine traces_optional (traces_behind fun _ j le => ?_) fun _ none => by cases none
    exact traces_keywordArguments.imp fun as k _ within a member => (within a member).mono le (Nat.le_refl k)
  refine traces_or (traces_behind fun o j le => traces_behind fun args k le' => ?_) (traces_behind fun o j le => ?_)
  · refine traces_then (more k) fun as l _ within => traces_pure (within_ofLists fun a member => ?_)
    exact (within a member).mono (Nat.le_trans le le') (Nat.le_refl l)
  · refine traces_then traces_keywordArguments fun as l _ within => traces_pure (within_ofLists fun a member => ?_)
    exact (within a member).mono le (Nat.le_refl l)

theorem traces_arguments : Traces tokens (arguments g) i fun a j => ∀ k ∈ a.keywords, k.Within tokens.tokens i j := by
  refine traces_or (traces_then traces_someArguments fun a j _ within => ?_) (traces_complain _)
  refine traces_behind fun _ k le => traces_behind fun _ l le' => traces_pure fun x member => ?_
  exact (within x member).mono (Nat.le_refl i) (Nat.le_trans le le')

end Expressions

/-- Tying the rules together, expressions begin at tokens consumed for them, with any number of levels. -/
instance traced_rulesOver {field : Parser Parsed} {levels : Nat} : (rulesOver field levels).Traced tokens := by
  induction levels with
  | zero =>
    constructor
    all_goals first | exact ⟨fun _ => traces_raise⟩ | exact fun _ => traces_raise
  | succ levels ih =>
    exact {
      expression := inferInstanceAs (Locates tokens (expression _))
      disjunction := inferInstanceAs (Locates tokens (disjunction _))
      inversion := inferInstanceAs (Locates tokens (inversion _))
      factor := inferInstanceAs (Locates tokens (factor _))
      bitwiseOr := inferInstanceAs (Locates tokens (bitwiseOr _))
      namedExpression := inferInstanceAs (Locates tokens (namedExpression _))
      starExpression := inferInstanceAs (Locates tokens (starExpression _))
      starNamedExpression := inferInstanceAs (Locates tokens (starNamedExpression _))
      starExpressions := inferInstanceAs (Locates tokens (starExpressions _))
      yieldExpression := inferInstanceAs (Locates tokens (yieldExpression _))
      slices := inferInstanceAs (Locates tokens (slices _))
      starTarget := inferInstanceAs (Locates tokens (starTarget _))
      starTargets := inferInstanceAs (Locates tokens (starTargets _))
      plainTarget := inferInstanceAs (Locates tokens (plainTarget _))
      starNamedExpressions := inferInstanceAs (Sound tokens (commaSeparated _))
      clauses := inferInstanceAs (Sound tokens (clauses _))
      lambdaParams := inferInstanceAs (Sound tokens (lambdaForm.checked _))
      arguments := fun _ => traces_arguments }

end Grammar

end FluentRecords
