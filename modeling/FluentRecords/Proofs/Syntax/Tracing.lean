import FluentRecords.Proofs.Syntax.ParserRules
import Mathlib.Data.List.Basic

/-!
Where expressions come from. An expression that is parsed begins at a token that was consumed for it, and so do the
keyword arguments of a call. Answers of rules are kept while a line is parsed, so this is a property of what a parse
remembers as well: a memory is sound if the answers in it are, and every parser keeps it sound. All this is about
parsing without complaints, which is how a source is read that has a parse.
-/

namespace FluentRecords

/-- A token inside a line stands at a place, from one index on and up to another one. -/
def StandsIn (tokens : Array Token) (i j : Nat) (p : Pos) : Prop :=
  ∃ k t, i ≤ k ∧ k ≤ j ∧ tokens[k]? = some t ∧ t.isInner = true ∧ t.place = p

section Places

variable {tokens : Array Token} {i i' j j' : Nat}

theorem StandsIn.mono {p : Pos} (stands : StandsIn tokens i j p) (lower : i' ≤ i) (upper : j ≤ j') :
    StandsIn tokens i' j' p := by
  obtain ⟨k, t, above, below, found⟩ := stands
  exact ⟨k, t, Nat.le_trans lower above, Nat.le_trans below upper, found⟩

theorem StandsIn.of_token {t : Token} (found : tokens[i]? = some t) (inner : t.isInner = true) :
    StandsIn tokens i i t.place :=
  ⟨i, t, Nat.le_refl i, Nat.le_refl i, found, inner, rfl⟩

/-- The keyword arguments of a call. -/
def Expr.keywords : Expr → List Keyword
  | .call _ _ ks => ks
  | _ => []

/-- The places of a keyword argument and of those of a call that is its value are those of tokens. -/
structure Keyword.Within (tokens : Array Token) (i j : Nat) (k : Keyword) : Prop where
  place : StandsIn tokens i j k.place
  inner : ∀ l ∈ k.value.keywords, StandsIn tokens i j l.place

theorem Keyword.Within.mono {k : Keyword} (within : k.Within tokens i j) (lower : i' ≤ i) (upper : j ≤ j') :
    k.Within tokens i' j' :=
  ⟨within.place.mono lower upper, fun l member => (within.inner l member).mono lower upper⟩

/-- An expression begins at a token, and so do its keyword arguments. -/
structure Parsed.Within (tokens : Array Token) (i j : Nat) (p : Parsed) : Prop where
  origin : StandsIn tokens i j p.origin.place
  keywords : ∀ k ∈ p.expr.keywords, k.Within tokens i j

theorem Parsed.Within.mono {p : Parsed} (within : p.Within tokens i j) (lower : i' ≤ i) (upper : j ≤ j') :
    p.Within tokens i' j' :=
  ⟨within.origin.mono lower upper, fun k member => (within.keywords k member).mono lower upper⟩

/-- An expression as the value of a keyword argument that begins where it does. -/
theorem Parsed.Within.keyword {p : Parsed} (within : p.Within tokens i j) (n : Option Text) :
    (Keyword.mk n p.origin.place p.expr).Within tokens i j :=
  ⟨within.origin, fun l member => (within.keywords l member).place⟩

/-- An expression that begins at an origin and has no keyword arguments. -/
structure Parsed.PlainAt (o : Origin) (p : Parsed) : Prop where
  origin : p.origin = o
  keywords : p.expr.keywords = []

theorem Parsed.PlainAt.within {o : Origin} {p : Parsed} (plain : p.PlainAt o) (stands : StandsIn tokens i j o.place) :
    p.Within tokens i j :=
  ⟨plain.origin ▸ stands, fun k member => by
    rw [plain.keywords] at member
    cases member⟩

end Places

/-- The answers that are kept for expressions begin at tokens that were consumed for them. -/
def ParseMemory.Sound (tokens : Tokens) (m : ParseMemory) : Prop :=
  ∀ (i : Nat) (rule : Kept) (a : Parsed) (n : Nat), m.exprs[(i, rule)]? = some (.found a n) →
    a.Within tokens.tokens i (i + n)

instance : Std.TransOrd Kept :=
  inferInstanceAs (Std.TransCmp (compareOn Kept.ctorIdx))

instance : Std.TransCmp compareKept :=
  inferInstanceAs (Std.TransCmp (compareLex (compareOn Prod.fst) (compareOn Prod.snd)))

theorem fst_eq_of_compareKept {x y : Nat × Kept} (same : compareKept x y = .eq) : x.1 = y.1 :=
  Nat.compare_eq_eq.mp (compareLex_eq_eq.mp same).1

/-- A memory stays sound if a sound answer is added. -/
theorem ParseMemory.Sound.insert {tokens : Tokens} {m : ParseMemory} (sound : m.Sound tokens) {i : Nat} {rule : Kept}
    {answer : Answer Parsed} (fine : ∀ a n, answer = .found a n → a.Within tokens.tokens i (i + n)) :
    ParseMemory.Sound tokens { m with exprs := m.exprs.insert (i, rule) answer } := by
  intro k kept a n found
  rw [Std.TreeMap.getElem?_insert] at found
  split at found
  case isTrue same =>
    obtain rfl : i = k := fst_eq_of_compareKept same
    exact fine a n (Option.some.inj found)
  case isFalse => exact sound k kept a n found

/-- The memory of an outcome is sound, and a property holds of an answer and of the token behind it. -/
def Outcome.Traced {α : Type} (tokens : Tokens) (i : Nat) (holds : α → Nat → Prop) : Outcome α → Prop
  | .ok a n m => m.Sound tokens ∧ holds a (i + n)
  | .fail m => m.Sound tokens
  | .fault _ _ => True

theorem Outcome.Traced.after {α : Type} {tokens : Tokens} {i n : Nat} {holds : α → Nat → Prop} {o : Outcome α}
    (traced : o.Traced tokens (i + n) holds) : (o.after n).Traced tokens i holds := by
  cases o with
  | ok a k m => exact ⟨traced.1, Nat.add_assoc i n k ▸ traced.2⟩
  | fail m => exact traced
  | fault f m => exact trivial

namespace Parser

variable {α β : Type} {tokens : Tokens} {i : Nat} {holds : α → Nat → Prop}

/-- Where a parser starts with a sound memory and without complaints, it ends with one, and a property holds of what
it answers and of the token behind. -/
def Traces (tokens : Tokens) (p : Parser α) (i : Nat) (holds : α → Nat → Prop) : Prop :=
  ∀ m, m.Sound tokens → (p ⟨tokens, false⟩ i m).Traced tokens i holds

theorem traces_iff {p : Parser α} : Traces tokens p i holds ↔ ∀ m, m.Sound tokens →
    (∀ a n m', p ⟨tokens, false⟩ i m = .ok a n m' → m'.Sound tokens ∧ holds a (i + n)) ∧
      ∀ m', p ⟨tokens, false⟩ i m = .fail m' → m'.Sound tokens := by
  refine forall_congr' fun m => imp_congr_right fun _ => ?_
  cases p ⟨tokens, false⟩ i m with
  | ok a n m' => simp [Outcome.Traced]
  | fail m' => simp [Outcome.Traced]
  | fault f m' => simp [Outcome.Traced]

theorem Traces.imp {p : Parser α} {weaker : α → Nat → Prop} (traces : Traces tokens p i holds)
    (step : ∀ a j, i ≤ j → holds a j → weaker a j) : Traces tokens p i weaker := by
  refine traces_iff.mpr fun m sound => ?_
  obtain ⟨found, failed⟩ := traces_iff.mp traces m sound
  exact ⟨fun a n m' run => (found a n m' run).imp_right (step a (i + n) (Nat.le_add_right i n)), failed⟩

theorem traces_pure {a : α} (fine : holds a i) : Traces tokens (pure a) i holds :=
  fun _ sound => ⟨sound, fine⟩

/-- What is parsed next starts behind what was parsed first, and may use what holds of that. -/
theorem traces_then {p : Parser β} {f : β → Parser α} {first : β → Nat → Prop} (traces : Traces tokens p i first)
    (next : ∀ b j, i ≤ j → first b j → Traces tokens (f b) j holds) : Traces tokens (p >>= f) i holds := by
  intro m sound
  have traced := (traces.imp next) m sound
  simp only [bind]
  cases run : p ⟨tokens, false⟩ i m with
  | ok b n m' =>
    rw [run] at traced
    exact (traced.2 m' traced.1).after
  | fail m' =>
    rw [run] at traced
    exact traced
  | fault f m' => exact trivial

theorem traces_map {p : Parser β} {f : β → α} (traces : Traces tokens p i fun b j => holds (f b) j) :
    Traces tokens (f <$> p) i holds :=
  traces_then traces fun _ _ _ fine => traces_pure fine

theorem traces_or {p q : Parser α} (first : Traces tokens p i holds) (second : Traces tokens q i holds) :
    Traces tokens (p <|> q) i holds := by
  intro m sound
  have traced := first m sound
  change (Parser.or p q _ i m).Traced tokens i holds
  unfold Parser.or
  cases run : p ⟨tokens, false⟩ i m with
  | ok a n m' =>
    rw [run] at traced
    exact traced
  | fail m' =>
    rw [run] at traced
    exact second m' traced
  | fault f m' => exact trivial

theorem traces_optional {p : Parser α} {holds : Option α → Nat → Prop}
    (some : Traces tokens p i fun a j => holds (some a) j) (none : holds none i) :
    Traces tokens (optional p) i holds :=
  traces_or (traces_map some) (traces_pure none)

theorem traces_ite {condition : Prop} [Decidable condition] {p q : Parser α} (first : Traces tokens p i holds)
    (second : Traces tokens q i holds) : Traces tokens (if condition then p else q) i holds := by
  split
  · exact first
  · exact second

theorem traces_fail : Traces tokens fail i holds :=
  fun _ sound => sound

theorem traces_raise {f : SyntaxFault} : Traces tokens (raise f) i holds :=
  fun _ _ => trivial

/-- Without complaints, a rule for common mistakes fails. -/
theorem traces_complain (ps : List (Parser Unit)) : Traces tokens (complain ps) i holds :=
  fun _ sound => sound

theorem traces_any {holds : Token → Nat → Prop} (fine : ∀ t, tokens.tokens[i]? = some t → holds t (i + 1)) :
    Traces tokens any i holds := by
  intro m sound
  unfold any
  dsimp only
  cases found : tokens.tokens[i]? with
  | some t => exact ⟨sound, fine t found⟩
  | none =>
    cases tokens.fault with
    | some f => exact trivial
    | none => exact sound

theorem traces_satisfy {test : Token → Bool} {holds : Token → Nat → Prop}
    (fine : ∀ t, tokens.tokens[i]? = some t → test t = true → holds t (i + 1)) :
    Traces tokens (satisfy test) i holds := by
  intro m sound
  have traced : Traces tokens any i fun t j => test t = true → holds t j := traces_any fine
  have traced := traced m sound
  unfold satisfy
  cases run : any ⟨tokens, false⟩ i m with
  | ok t n m' =>
    rw [run] at traced
    dsimp only
    split
    case isTrue passes => exact ⟨traced.1, traced.2 passes⟩
    case isFalse => exact traced.1
  | fail m' =>
    rw [run] at traced
    exact traced
  | fault f m' => exact trivial

/-- Looking at what a parser would answer consumes nothing. -/
theorem traces_ahead {p : Parser β} {holds : Unit → Nat → Prop} (traces : Traces tokens p i fun _ _ => holds () i) :
    Traces tokens (ahead p) i holds := by
  intro m sound
  have traced := traces m sound
  unfold ahead
  cases run : p ⟨tokens, false⟩ i m with
  | ok a n m' =>
    rw [run] at traced
    exact traced
  | fail m' =>
    rw [run] at traced
    exact traced
  | fault f m' => exact trivial

theorem traces_notAhead {p : Parser β} {holds : Unit → Nat → Prop} (traces : Traces tokens p i fun _ _ => True)
    (fine : holds () i) : Traces tokens (notAhead p) i holds := by
  intro m sound
  have traced := traces m sound
  unfold notAhead
  cases run : p ⟨tokens, false⟩ i m with
  | ok a n m' =>
    rw [run] at traced
    exact traced.1
  | fail m' =>
    rw [run] at traced
    exact ⟨traced, fine⟩
  | fault f m' => exact trivial

theorem traces_peek {holds : Token → Nat → Prop} (fine : ∀ t, tokens.tokens[i]? = some t → holds t i) :
    Traces tokens peek i holds := by
  intro m sound
  have traced : Traces tokens any i fun t _ => holds t i := traces_any fine
  have traced := traced m sound
  unfold peek
  cases run : any ⟨tokens, false⟩ i m with
  | ok t n m' =>
    rw [run] at traced
    exact traced
  | fail m' =>
    rw [run] at traced
    exact traced
  | fault f m' => exact trivial

theorem traces_found : Traces tokens peek i fun t j => i = j ∧ tokens.tokens[i]? = some t :=
  traces_peek fun _ found => ⟨rfl, found⟩

theorem traces_here : Traces tokens here i fun o j => i = j ∧ StandsIn tokens.tokens i i o.place := by
  refine traces_then traces_found ?_
  rintro t _ _ ⟨rfl, found⟩
  split
  case isTrue inner => exact traces_pure ⟨rfl, .of_token found inner⟩
  case isFalse => exact traces_fail

/-- Repeating a parser, what holds of each answer holds of all of them. -/
theorem traces_many {p : Parser α} {one : Nat → Nat → α → Prop}
    (mono : ∀ {i i' j j' a}, one i j a → i' ≤ i → j ≤ j' → one i' j' a)
    (each : ∀ i, Traces tokens p i fun a j => one i j a) :
    Traces tokens (many p) i fun as j => ∀ a ∈ as, one i j a := by
  unfold many
  generalize mostRepeats = fuel
  induction fuel generalizing i with
  | zero => exact traces_pure fun _ none => by cases none
  | succ fuel ih =>
    intro m sound
    have first := each i m sound
    unfold manyUpTo
    cases run : p ⟨tokens, false⟩ i m with
    | ok a n m' =>
      rw [run] at first
      have rest := @ih (i + n) m' first.1
      dsimp only
      cases next : manyUpTo p fuel ⟨tokens, false⟩ (i + n) m' with
      | ok as k m'' =>
        rw [next] at rest
        refine ⟨rest.1, List.forall_mem_cons.mpr ⟨?_, fun b member => ?_⟩⟩
        · exact mono first.2 (Nat.le_refl _) (Nat.add_le_add_left (Nat.le_add_right n k) i)
        · rw [← Nat.add_assoc]
          exact mono (rest.2 b member) (Nat.le_add_right i n) (Nat.le_refl _)
      | fail m'' =>
        rw [next] at rest
        exact rest
      | fault f m'' => exact trivial
    | fail m' =>
      rw [run] at first
      exact ⟨first, fun _ none => by cases none⟩
    | fault f m' => exact trivial

/-- Extending a value keeps a property that every step keeps. -/
theorem traces_grow {step : α → Parser α} {a : α} (fine : holds a i)
    (each : ∀ a j, i ≤ j → holds a j → Traces tokens (step a) j holds) : Traces tokens (grow step a) i holds := by
  unfold grow
  generalize mostRepeats = fuel
  induction fuel generalizing a i with
  | zero => exact traces_pure fine
  | succ fuel ih =>
    intro m sound
    have first := each a i (Nat.le_refl i) fine m sound
    unfold growUpTo
    cases run : step a ⟨tokens, false⟩ i m with
    | ok b n m' =>
      rw [run] at first
      exact (ih first.2 (fun c j le => each c j (Nat.le_trans (Nat.le_add_right i n) le)) m' first.1).after
    | fail m' =>
      rw [run] at first
      exact ⟨first, fine⟩
    | fault f m' => exact trivial

theorem traces_commit {first : Parser β} {rest : β → Parser α} {other : Parser α}
    (start : Traces tokens first i fun b j => Traces tokens (rest b) j holds)
    (otherwise : Traces tokens other i holds) : Traces tokens (commit first rest other) i holds := by
  intro m sound
  have traced := start m sound
  unfold commit
  cases run : first ⟨tokens, false⟩ i m with
  | ok b n m' =>
    rw [run] at traced
    exact (traced.2 m' traced.1).after
  | fail m' =>
    rw [run] at traced
    exact otherwise m' traced
  | fault f m' => exact trivial

/-- A rule whose answers are kept. -/
theorem traces_memo {rule : Kept} {p : Parser Parsed}
    (traces : Traces tokens p i fun e j => e.Within tokens.tokens i j) :
    Traces tokens (memo rule p) i fun e j => e.Within tokens.tokens i j := by
  intro m sound
  have traced := traces m sound
  unfold memo
  cases kept : m.exprs[(i, rule)]? with
  | some answer =>
    cases answer with
    | failed => exact sound
    | found a n => exact ⟨sound, sound i rule a n kept⟩
  | none =>
    dsimp only
    cases run : p ⟨tokens, false⟩ i m with
    | ok a n m' =>
      rw [run] at traced
      refine ⟨traced.1.insert fun b k same => ?_, traced.2⟩
      cases same
      exact traced.2
    | fail m' =>
      rw [run] at traced
      exact traced.insert fun b k same => by cases same
    | fault f m' => exact trivial

/-- What is begun afresh begins with a sound memory. -/
theorem Traces.reaches_afresh {p : Parser α} (traces : Traces tokens p i holds) :
    Reaches (afresh p) ⟨tokens, false⟩ i holds := by
  intro m a n m' run
  have sound : ParseMemory.Sound tokens { m with exprs := ∅ } := fun j rule b k found => by
    rw [Std.TreeMap.getElem?_emptyc] at found
    cases found
  exact ((traces_iff.mp traces _ sound).1 a n m' run).2

/-- Parsers that keep a memory sound. -/
class Sound (tokens : Tokens) (p : Parser α) : Prop where
  traces (i : Nat) : Traces tokens p i fun _ _ => True

/-- Parsers of expressions that begin at a token consumed for them. -/
class Locates (tokens : Tokens) (p : Parser Parsed) : Prop where
  traces (i : Nat) : Traces tokens p i fun e j => e.Within tokens.tokens i j

theorem Sound.of_traces {p : Parser α} {holds : Nat → α → Nat → Prop} (traces : ∀ i, Traces tokens p i (holds i)) :
    Sound tokens p :=
  ⟨fun i => (traces i).imp fun _ _ _ _ => trivial⟩

/-- What a parser answers does not matter for what follows it, only that parsing goes on behind it. -/
theorem traces_behind {p : Parser β} [Sound tokens p] {f : β → Parser α}
    (next : ∀ b j, i ≤ j → Traces tokens (f b) j holds) : Traces tokens (p >>= f) i holds :=
  traces_then (Sound.traces i) fun b j le _ => next b j le

/-- What holds of each answer holds of those between separators. -/
theorem traces_sepBy1 {p : Parser α} {sep : Parser β} [Sound tokens sep] {one : Nat → Nat → α → Prop}
    (mono : ∀ {i i' j j' a}, one i j a → i' ≤ i → j ≤ j' → one i' j' a)
    (each : ∀ i, Traces tokens p i fun a j => one i j a) :
    Traces tokens (sepBy1 p sep) i fun as j => ∀ a ∈ as, one i j a := by
  have others (i : Nat) : Traces tokens (do let _ ← sep; p) i fun a j => one i j a :=
    traces_behind fun _ j le => (each j).imp fun _ k _ fine => mono fine le (Nat.le_refl k)
  have more (i : Nat) : Traces tokens (many (do let _ ← sep; p)) i fun as j => ∀ a ∈ as, one i j a :=
    traces_many mono others
  refine traces_then (each i) fun a j le first => traces_then (more j) fun as k le' rest => ?_
  exact traces_pure (List.forall_mem_cons.mpr
    ⟨mono first (Nat.le_refl i) le', fun b member => mono (rest b member) le (Nat.le_refl k)⟩)

section Instances

variable {p q : Parser α} {f : β → Parser α}

instance (priority := low) {p : Parser Parsed} [each : Locates tokens p] : Sound tokens p :=
  .of_traces each.traces

instance (a : α) : Sound tokens (pure a) :=
  ⟨fun _ => traces_pure trivial⟩

instance {p : Parser β} [Sound tokens p] [next : ∀ b, Sound tokens (f b)] : Sound tokens (p >>= f) :=
  ⟨fun _ => traces_behind fun b j _ => (next b).traces j⟩

theorem sound_behind {p : Parser β} [Sound tokens p] (next : ∀ b, Sound tokens (f b)) : Sound tokens (p >>= f) :=
  inferInstance

instance {f : α → β} [each : Sound tokens p] : Sound tokens (f <$> p) :=
  ⟨fun i => traces_map (each.traces i)⟩

instance [first : Sound tokens p] [second : Sound tokens q] : Sound tokens (p <|> q) :=
  ⟨fun i => traces_or (first.traces i) (second.traces i)⟩

instance [each : Sound tokens p] : Sound tokens (optional p) :=
  ⟨fun i => traces_optional (each.traces i) trivial⟩

instance {condition : Prop} [Decidable condition] [first : Sound tokens p] [second : Sound tokens q] :
    Sound tokens (if condition then p else q) :=
  ⟨fun i => traces_ite (first.traces i) (second.traces i)⟩

instance [each : Sound tokens p] : Sound tokens (ahead p) :=
  ⟨fun i => traces_ahead (each.traces i)⟩

instance [each : Sound tokens p] : Sound tokens (notAhead p) :=
  ⟨fun i => traces_notAhead (each.traces i) trivial⟩

instance [each : Sound tokens p] : Sound tokens (many p) :=
  .of_traces fun _ => traces_many (fun fine _ _ => fine) each.traces

instance [Sound tokens p] : Sound tokens (many1 p) := by
  unfold many1
  infer_instance

instance {sep : Parser β} [Sound tokens p] [Sound tokens sep] : Sound tokens (sepBy1 p sep) := by
  unfold sepBy1
  infer_instance

theorem sound_commit {first : Parser β} {rest : β → Parser α} [start : Sound tokens first] [other : Sound tokens q]
    (next : ∀ b, Sound tokens (rest b)) : Sound tokens (commit first rest q) :=
  ⟨fun i => traces_commit ((start.traces i).imp fun b j _ _ => (next b).traces j) (other.traces i)⟩

instance : Sound tokens (fail : Parser α) :=
  ⟨fun _ => traces_fail⟩

instance {s : SyntaxFault} : Sound tokens (raise s : Parser α) :=
  ⟨fun _ => traces_raise⟩

instance {ps : List (Parser Unit)} : Sound tokens (complain ps : Parser α) :=
  ⟨fun _ => traces_complain ps⟩

instance : Sound tokens any :=
  ⟨fun _ => traces_any fun _ _ => trivial⟩

instance : Sound tokens peek :=
  ⟨fun _ => traces_peek fun _ _ => trivial⟩

instance : Sound tokens here :=
  .of_traces fun _ => traces_here

instance {test : Token → Bool} : Sound tokens (satisfy test) :=
  ⟨fun _ => traces_satisfy fun _ _ _ => trivial⟩

instance {text : String} : Sound tokens (op text) := by
  unfold op
  infer_instance

instance {text : String} : Sound tokens (word text) := by
  unfold word
  infer_instance

instance {k : TokenKind} : Sound tokens (kind k) := by
  unfold kind
  infer_instance

instance : Sound tokens name := by
  unfold name
  infer_instance

instance {opening closing : String} [Sound tokens p] : Sound tokens (between opening p closing) := by
  unfold between
  infer_instance

instance [Sound tokens p] : Sound tokens (commaSeparated p) := by
  unfold commaSeparated
  infer_instance

end Instances

section Places

variable {p q : Parser Parsed}

theorem locates_or (first : Locates tokens p) (second : Locates tokens q) : Locates tokens (p <|> q) :=
  ⟨fun i => traces_or (first.traces i) (second.traces i)⟩

instance [first : Locates tokens p] [second : Locates tokens q] : Locates tokens (p <|> q) :=
  locates_or first second

instance {ps : List (Parser Unit)} : Locates tokens (complain ps) :=
  ⟨fun _ => traces_complain ps⟩

theorem locates_memo {rule : Kept} (each : Locates tokens p) : Locates tokens (memo rule p) :=
  ⟨fun i => traces_memo (each.traces i)⟩

instance {rule : Kept} [each : Locates tokens p] : Locates tokens (memo rule p) :=
  locates_memo each

/-- What stands behind something begins there as well. -/
theorem locates_behind {p : Parser β} [Sound tokens p] {f : β → Parser Parsed} (next : ∀ b, Locates tokens (f b)) :
    Locates tokens (p >>= f) :=
  ⟨fun _ => traces_behind fun b j le => ((next b).traces j).imp fun _ k _ fine => fine.mono le (Nat.le_refl k)⟩

/-- An expression that is followed by something. -/
theorem locates_before {rest : Parser β} [each : Locates tokens p] [Sound tokens rest] :
    Locates tokens (do let e ← p; let _ ← rest; pure e) :=
  ⟨fun i => traces_then (each.traces i) fun _ _ _ fine => traces_behind fun _ _ le =>
    traces_pure (fine.mono (Nat.le_refl i) le)⟩

instance {opening closing : String} [Locates tokens p] : Locates tokens (between opening p closing) :=
  locates_behind fun _ => locates_before

/-- Whatever a parser answers begins at an origin and has no keyword arguments. -/
def Plain (tokens : Tokens) (o : Origin) (p : Parser Parsed) : Prop :=
  ∀ i, Traces tokens p i fun e _ => e.PlainAt o

section Plain

variable {o : Origin} {p q : Parser Parsed}

theorem plain_pure {e : Parsed} (origin : e.origin = o) (keywords : e.expr.keywords = []) :
    Plain tokens o (pure e) :=
  fun _ => traces_pure ⟨origin, keywords⟩

theorem plain_behind {p : Parser β} [Sound tokens p] {f : β → Parser Parsed} (next : ∀ b, Plain tokens o (f b)) :
    Plain tokens o (p >>= f) :=
  fun _ => traces_behind fun b j _ => next b j

theorem plain_or (first : Plain tokens o p) (second : Plain tokens o q) : Plain tokens o (p <|> q) :=
  fun i => traces_or (first i) (second i)

theorem plain_ite {condition : Prop} [Decidable condition] (first : Plain tokens o p) (second : Plain tokens o q) :
    Plain tokens o (if condition then p else q) :=
  fun i => traces_ite (first i) (second i)

theorem plain_fail : Plain tokens o fail :=
  fun _ => traces_fail

theorem plain_raise {s : SyntaxFault} : Plain tokens o (raise s) :=
  fun _ => traces_raise

/-- What begins where a token inside a line does, begins at a token. -/
theorem locates_here {f : Origin → Parser Parsed} (next : ∀ o, Plain tokens o (f o)) : Locates tokens (here >>= f) := by
  refine ⟨fun i => traces_then traces_here ?_⟩
  rintro o _ _ ⟨rfl, stands⟩
  exact (next o _).imp fun e j le plain => plain.within (stands.mono (Nat.le_refl _) le)

/-- Where an origin and an expression are found, so is whatever a parser answers behind them. -/
def Extends (tokens : Tokens) (o : Origin) (a : Parsed) (p : Parser Parsed) : Prop :=
  ∀ i₀ i, i₀ ≤ i → StandsIn tokens.tokens i₀ i₀ o.place → a.Within tokens.tokens i₀ i →
    Traces tokens p i fun e j => e.Within tokens.tokens i₀ j

section Extends

variable {a : Parsed}

theorem Plain.extends (plain : Plain tokens o p) : Extends tokens o a p :=
  fun i₀ i le stands _ => (plain i).imp fun _ _ le' begins =>
    begins.within (stands.mono (Nat.le_refl i₀) (Nat.le_trans le le'))

theorem extends_self : Extends tokens o a (pure a) :=
  fun _ _ _ _ within => traces_pure within

theorem extends_behind {p : Parser β} [Sound tokens p] {f : β → Parser Parsed} (next : ∀ b, Extends tokens o a (f b)) :
    Extends tokens o a (p >>= f) :=
  fun i₀ _ le stands within => traces_behind fun b j le' =>
    next b i₀ j (Nat.le_trans le le') stands (within.mono (Nat.le_refl i₀) le')

/-- An expression that is followed by something. -/
theorem Extends.before {rest : Parser β} [Sound tokens rest] (each : Extends tokens o a p) :
    Extends tokens o a (do let e ← p; let _ ← rest; pure e) :=
  fun i₀ i le stands within => traces_then (each i₀ i le stands within) fun _ _ _ fine => traces_behind fun _ _ le' =>
    traces_pure (fine.mono (Nat.le_refl i₀) le')

theorem extends_or (first : Extends tokens o a p) (second : Extends tokens o a q) : Extends tokens o a (p <|> q) :=
  fun i₀ i le stands within => traces_or (first i₀ i le stands within) (second i₀ i le stands within)

theorem extends_ite {condition : Prop} [Decidable condition] (first : Extends tokens o a p)
    (second : Extends tokens o a q) : Extends tokens o a (if condition then p else q) :=
  fun i₀ i le stands within => traces_ite (first i₀ i le stands within) (second i₀ i le stands within)

theorem extends_grow {step : Parsed → Parser Parsed} (each : ∀ b, Extends tokens o b (step b)) :
    Extends tokens o a (grow step a) :=
  fun i₀ _ le stands within => traces_grow within fun b j le' => each b i₀ j (Nat.le_trans le le') stands

/-- What is parsed behind an expression and the origin in front of it. -/
theorem locates_from [each : Locates tokens p] {f : Origin → Parsed → Parser Parsed}
    (next : ∀ o a, Extends tokens o a (f o a)) : Locates tokens (do let o ← here; let a ← p; f o a) := by
  refine ⟨fun i => traces_then traces_here ?_⟩
  rintro o _ _ ⟨rfl, stands⟩
  exact traces_then (each.traces i) fun a j le within => next o a i j le stands within

end Extends

/-- What begins at a token that was consumed. -/
theorem locates_satisfy {test : Token → Bool} {f : Token → Parser Parsed} (inner : ∀ t, test t = true → t.isInner = true)
    (next : ∀ t, Plain tokens t.origin (f t)) : Locates tokens (satisfy test >>= f) := by
  have token (i : Nat) : Traces tokens (satisfy test) i fun t j => StandsIn tokens.tokens i j t.place :=
    traces_satisfy fun t found passes => (StandsIn.of_token found (inner t passes)).mono (Nat.le_refl i) (Nat.le_succ i)
  exact ⟨fun i => traces_then (token i) fun t j le stands => (next t j).imp fun e k le' plain =>
    plain.within (stands.mono (Nat.le_refl i) le')⟩

end Plain

end Places

variable {f : Token → Parser Parsed}

theorem locates_op {text : String} (next : ∀ t, Plain tokens t.origin (f t)) : Locates tokens (op text >>= f) :=
  locates_satisfy (fun _ passes => Token.isInner_of_kind (Bool.and_eq_true_iff.mp passes).1 (by decide)) next

theorem locates_word {text : String} (next : ∀ t, Plain tokens t.origin (f t)) : Locates tokens (word text >>= f) :=
  locates_satisfy (fun _ passes => Token.isInner_of_kind (Bool.and_eq_true_iff.mp passes).1 (by decide)) next

theorem locates_kind {k : TokenKind} (inner : k ∈ [TokenKind.name, .keyword, .number, .string, .operator])
    (next : ∀ t, Plain tokens t.origin (f t)) : Locates tokens (kind k >>= f) :=
  locates_satisfy (fun _ passes => Token.isInner_of_kind passes inner) next

theorem locates_name (next : ∀ t, Plain tokens t.origin (f t)) : Locates tokens (name >>= f) :=
  locates_kind (by decide) next

end Parser

end FluentRecords
