import FluentRecords.Syntax.Grammar.Rule

/-!
What parsers answer. A property of an answer and of the token behind what was consumed for it is carried through
the combinators, one rule for each of them. A parser that only recognises common mistakes never answers.
-/

namespace FluentRecords

theorem Outcome.after_eq_ok {α : Type} {o : Outcome α} {before n : Nat} {a : α} {m : ParseMemory} :
    o.after before = .ok a n m ↔ ∃ k, o = .ok a k m ∧ n = before + k := by
  cases o with
  | ok b k m =>
    constructor
    · intro run
      cases run
      exact ⟨k, rfl, rfl⟩
    · rintro ⟨_, same, rfl⟩
      cases same
      rfl
  | fail m => exact iff_of_false (fun run => by cases run) (by rintro ⟨_, same, _⟩; cases same)
  | fault f m => exact iff_of_false (fun run => by cases run) (by rintro ⟨_, same, _⟩; cases same)

/-- Tokens of these kinds stand inside a line. -/
theorem Token.isInner_of_kind {t : Token} {k : TokenKind} (same : (t.kind == k) = true)
    (inner : k ∈ [TokenKind.name, .keyword, .number, .string, .operator]) : t.isInner = true := by
  rw [beq_iff_eq] at same
  subst same
  unfold isInner isPlaced
  revert inner
  cases t.kind <;> decide

namespace Parser

variable {α β : Type} {env : ParseEnv} {i : Nat} {holds : α → Nat → Prop}

/-- Whatever a parser answers at a token, a property holds of the answer and of the token behind it. -/
def Reaches (p : Parser α) (env : ParseEnv) (i : Nat) (holds : α → Nat → Prop) : Prop :=
  ∀ m a n m', p env i m = Outcome.ok a n m' → holds a (i + n)

theorem Reaches.imp {p : Parser α} {weaker : α → Nat → Prop} (reaches : Reaches p env i holds)
    (step : ∀ a j, holds a j → weaker a j) : Reaches p env i weaker :=
  fun m a n m' run => step a (i + n) (reaches m a n m' run)

theorem Reaches.of_forall {p : Parser α} (all : ∀ a j, i ≤ j → holds a j) : Reaches p env i holds :=
  fun _ a n _ _ => all a (i + n) (Nat.le_add_right i n)

/-- A parser does not go back. -/
theorem Reaches.forward {p : Parser α} (reaches : Reaches p env i holds) :
    Reaches p env i fun a j => i ≤ j ∧ holds a j :=
  fun m a n m' run => ⟨Nat.le_add_right i n, reaches m a n m' run⟩

theorem reaches_pure {a : α} (fine : holds a i) : Reaches (pure a) env i holds := by
  intro m b n m' run
  cases run
  exact fine

/-- What is parsed next starts behind what was parsed first. -/
theorem reaches_bind {p : Parser β} {f : β → Parser α}
    (both : Reaches p env i fun b j => Reaches (f b) env j holds) : Reaches (p >>= f) env i holds := by
  intro m a n m' run
  simp only [bind] at run
  split at run
  · rename_i b k before first
    obtain ⟨l, next, rfl⟩ := Outcome.after_eq_ok.mp run
    rw [← Nat.add_assoc]
    exact both m b k before first before a l m' next
  · cases run
  · cases run

theorem reaches_map {p : Parser β} {f : β → α} (reaches : Reaches p env i fun b j => holds (f b) j) :
    Reaches (f <$> p) env i holds :=
  reaches_bind (reaches.imp fun _ _ fine => reaches_pure fine)

/-- What is parsed first only matters in that parsing goes on behind it. -/
theorem reaches_behind {p : Parser β} {f : β → Parser α} (next : ∀ b j, i ≤ j → Reaches (f b) env j holds) :
    Reaches (p >>= f) env i holds :=
  reaches_bind (.of_forall next)

theorem reaches_or {p q : Parser α} (first : Reaches p env i holds) (second : Reaches q env i holds) :
    Reaches (p <|> q) env i holds := by
  intro m a n m' run
  change Parser.or p q env i m = _ at run
  unfold Parser.or at run
  split at run
  · rename_i b k before found
    cases run
    exact first m a n m' found
  · exact second _ a n m' run
  · cases run

theorem reaches_optional {p : Parser α} {holds : Option α → Nat → Prop}
    (some : Reaches p env i fun a j => holds (some a) j) (none : holds none i) : Reaches (optional p) env i holds :=
  reaches_or (reaches_map some) (reaches_pure none)

theorem reaches_commit {first : Parser β} {rest : β → Parser α} {other : Parser α}
    (both : Reaches first env i fun b j => Reaches (rest b) env j holds) (otherwise : Reaches other env i holds) :
    Reaches (commit first rest other) env i holds := by
  intro m a n m' run
  unfold commit at run
  split at run
  · rename_i b k before start
    obtain ⟨l, behind, rfl⟩ := Outcome.after_eq_ok.mp run
    rw [← Nat.add_assoc]
    exact both m b k before start before a l m' behind
  · exact otherwise _ a n m' run
  · cases run

/-- An answer with something behind it. -/
theorem reaches_between {p : Parser α} {opening closing : String} {holds : α → Nat → Prop}
    (each : ∀ j, i ≤ j → Reaches p env j fun a k => ∀ l, k ≤ l → holds a l) :
    Reaches (between opening p closing) env i holds :=
  reaches_behind fun _ j le => reaches_bind ((each j le).imp fun _ _ fine => reaches_behind fun _ l le' =>
    reaches_pure (fine l le'))

theorem reaches_ite {condition : Prop} [Decidable condition] {p q : Parser α} (first : Reaches p env i holds)
    (second : Reaches q env i holds) : Reaches (if condition then p else q) env i holds := by
  split
  · exact first
  · exact second

theorem reaches_fail : Reaches fail env i holds :=
  fun _ _ _ _ run => by cases run

theorem reaches_raise {f : SyntaxFault} : Reaches (raise f) env i holds :=
  fun _ _ _ _ run => by cases run

theorem reaches_complaints (ps : List (Parser Unit)) : Reaches (complaints ps) env i holds := by
  induction ps with
  | nil => exact reaches_fail
  | cons p rest ih =>
    intro m a n m' run
    unfold complaints at run
    split at run
    · cases run
    · exact ih _ a n m' run
    · cases run

theorem reaches_complain (ps : List (Parser Unit)) : Reaches (complain ps) env i holds := by
  intro m a n m' run
  unfold complain at run
  split at run
  · exact reaches_complaints ps m a n m' run
  · cases run

theorem reaches_any {holds : Token → Nat → Prop} (fine : ∀ t, env.tokens.tokens[i]? = some t → holds t (i + 1)) :
    Reaches any env i holds := by
  intro m t n m' run
  unfold any at run
  split at run
  · rename_i next found
    cases run
    exact fine t found
  · split at run
    · cases run
    · cases run

theorem reaches_satisfy {test : Token → Bool} {holds : Token → Nat → Prop}
    (fine : ∀ t, env.tokens.tokens[i]? = some t → test t = true → holds t (i + 1)) :
    Reaches (satisfy test) env i holds := by
  intro m t n m' run
  unfold satisfy at run
  split at run
  · rename_i next k before found
    split at run
    · rename_i passes
      cases run
      have tested : Reaches any env i fun t j => test t = true → holds t j := reaches_any fine
      exact tested m t n m' found passes
    · cases run
  · cases run
  · cases run

theorem reaches_peek {holds : Token → Nat → Prop} (fine : ∀ t, env.tokens.tokens[i]? = some t → holds t i) :
    Reaches peek env i holds := by
  intro m t n m' run
  unfold peek at run
  split at run
  · rename_i next k before found
    cases run
    have peeked : Reaches any env i fun t _ => holds t i := reaches_any fine
    exact peeked m t k m' found
  · cases run
  · cases run

/-- Where a token inside a line is next, parsing goes on there. -/
theorem reaches_here {holds : Origin → Nat → Prop}
    (fine : ∀ t, env.tokens.tokens[i]? = some t → t.isInner = true → holds t.origin i) : Reaches here env i holds := by
  refine reaches_bind (reaches_peek fun t found => ?_)
  split
  case isTrue inner => exact reaches_pure (fine t found inner)
  case isFalse => exact reaches_fail

/-- A token that a test finds inside a line. -/
theorem reaches_inner {test : Token → Bool} {k : TokenKind} {holds : Token → Nat → Prop}
    (kind : ∀ t, test t = true → (t.kind == k) = true)
    (inner : k ∈ [TokenKind.name, .keyword, .number, .string, .operator])
    (fine : ∀ t, env.tokens.tokens[i]? = some t → t.isInner = true → holds t (i + 1)) :
    Reaches (satisfy test) env i holds :=
  reaches_satisfy fun t found passes => fine t found (Token.isInner_of_kind (kind t passes) inner)

/-- The token at which an operator is found. -/
theorem reaches_op {text : String} {holds : Token → Nat → Prop}
    (fine : ∀ t, env.tokens.tokens[i]? = some t → t.isInner = true → holds t (i + 1)) :
    Reaches (op text) env i holds :=
  reaches_inner (fun _ passes => (Bool.and_eq_true_iff.mp passes).1) (by decide) fine

theorem reaches_word {text : String} {holds : Token → Nat → Prop}
    (fine : ∀ t, env.tokens.tokens[i]? = some t → t.isInner = true → holds t (i + 1)) :
    Reaches (word text) env i holds :=
  reaches_inner (fun _ passes => (Bool.and_eq_true_iff.mp passes).1) (by decide) fine

theorem reaches_softWord {text : String} {holds : Token → Nat → Prop}
    (fine : ∀ t, env.tokens.tokens[i]? = some t → t.isInner = true → holds t (i + 1)) :
    Reaches (softWord text) env i holds :=
  reaches_inner (fun _ passes => (Bool.and_eq_true_iff.mp passes).1) (by decide) fine

/-- The token at which a kind is found is of that kind. -/
theorem reaches_kind {k : TokenKind} {holds : Token → Nat → Prop}
    (fine : ∀ t, env.tokens.tokens[i]? = some t → t.kind = k → holds t (i + 1)) : Reaches (kind k) env i holds :=
  reaches_satisfy fun t found same => fine t found (beq_iff_eq.mp same)

/-- Repeating a parser, what holds of its answers carries over to their list. -/
theorem reaches_manyUpTo {p : Parser α} {one : Nat → α → Nat → Prop} (all : Nat → List α → Nat → Prop)
    (each : ∀ i, Reaches p env i (one i)) (none : ∀ i, all i [] i)
    (more : ∀ i a j as k, one i a j → all j as k → all i (a :: as) k) (fuel : Nat) :
    ∀ i, Reaches (manyUpTo p fuel) env i (all i) := by
  induction fuel with
  | zero => exact fun i => reaches_pure (none i)
  | succ fuel ih =>
    intro i m as n m' run
    unfold manyUpTo at run
    split at run
    · rename_i a k before first
      split at run
      · rename_i rest l after next
        cases run
        rw [← Nat.add_assoc]
        exact more i a (i + k) rest _ (each i m a k before first) (ih (i + k) before rest l m' next)
      · cases run
      · cases run
    · cases run
      exact none i
    · cases run

theorem reaches_many {p : Parser α} {one : Nat → α → Nat → Prop} (all : Nat → List α → Nat → Prop)
    (each : ∀ i, Reaches p env i (one i)) (none : ∀ i, all i [] i)
    (more : ∀ i a j as k, one i a j → all j as k → all i (a :: as) k) : Reaches (many p) env i (all i) :=
  fun m as n m' run => reaches_manyUpTo all each none more _ i m as n m' run

theorem reaches_many1 {p : Parser α} {one : Nat → α → Nat → Prop} (all : Nat → List α → Nat → Prop)
    (each : ∀ i, Reaches p env i (one i)) (none : ∀ i, all i [] i)
    (more : ∀ i a j as k, one i a j → all j as k → all i (a :: as) k) : Reaches (many1 p) env i (all i) :=
  reaches_bind ((each i).imp fun a j first => reaches_bind
    ((reaches_many all each none more).imp fun as k rest => reaches_pure (more i a j as k first rest)))

/-- Without complaints, a block that is answered was parsed at its token. -/
theorem reaches_memoBlock {p : Parser (List Stmt)} {holds : List Stmt → Nat → Prop} (quiet : env.complain = false)
    (reaches : Reaches p env i holds) : Reaches (memoBlock p) env i holds := by
  intro m ss n m' run
  unfold memoBlock at run
  rw [if_neg (Bool.eq_false_iff.mp quiet)] at run
  exact reaches m ss n m' run

theorem reaches_afresh {p : Parser α} (reaches : Reaches p env i holds) : Reaches (afresh p) env i holds :=
  fun _ a n m' run => reaches _ a n m' run

end Parser

/-- What holds of the answers of a parser holds of what is read with it. -/
theorem Attempt.of_run {α : Type} {a : Attempt α} {tokens : Tokens} {holds : α → Nat → Prop} {x : α}
    (reaches : Parser.Reaches a.parser ⟨tokens, false⟩ 0 holds) (done : a.run tokens = .ok x) : ∃ n, holds x n := by
  unfold Attempt.run at done
  split at done
  · rename_i found
    cases done
    exact ⟨_, reaches _ _ _ _ found⟩
  · cases done
  · split at done
    · cases done
    · split at done
      · cases done
      · cases done
    · split at done
      · cases done
      · cases done

end FluentRecords
