import FluentRecords.Syntax.Token.Reader
import Std.Data.TreeMap

/-!
Ordered-choice parsing over tokens. A parser succeeds, fails so that the next alternative is tried, or
finds a fault, which ends parsing. It is remembered how many tokens were looked at, because a source
without any parse is reported at the last of them, and so are the answers of rules that are tried
repeatedly at one token.
-/

namespace FluentRecords

/-- Where something begins: its place, and the characters before it in its line. -/
structure Origin where
  place : Pos
  offset : Nat

/-- An expression while it is parsed: where it begins, and the parts an assignment would look into. -/
inductive Parsed
  | mk (origin : Origin) (expr : Expr) (parts : List Parsed)

namespace Parsed

/-- Where the expression begins. -/
def origin : Parsed → Origin
  | mk o _ _ => o

/-- The expression itself. -/
def expr : Parsed → Expr
  | mk _ e _ => e

end Parsed

/-- The answer of a rule at a token; where it succeeds, it consumes a number of tokens. -/
inductive Answer (α : Type)
  | failed
  | found (a : α) (used : Nat)

/-- The rules whose answers are kept. -/
inductive Kept
  | expression
  | starExpression
  | disjunction
  | conjunction
  | inversion
  | bitwiseOr
  | bitwiseXor
  | bitwiseAnd
  | shift
  | sum
  | term
  | factor
  | awaited
  | primary
  | strings
  | targetPrimary
  | starTarget
  | starAtom
  | deletionTarget
  | wrongNamedExpression
deriving DecidableEq, Ord

/-- The order of tokens, and of rules at the same token. -/
def compareKept : Nat × Kept → Nat × Kept → Ordering :=
  compareLex (compareOn Prod.fst) (compareOn Prod.snd)

/-- What a parse remembers: the number of tokens looked at, and the answers of rules at tokens. -/
structure ParseMemory where
  seen : Nat
  exprs : Std.TreeMap (Nat × Kept) (Answer Parsed) compareKept
  blocks : Std.TreeMap Nat (Answer (List Stmt))

/-- The memory of a parse that has tried no rule yet. -/
def ParseMemory.start (seen : Nat) : ParseMemory :=
  ⟨seen, ∅, ∅⟩

/-- What a fault was found in: the characters of a token, the sequence of tokens that can be read, the
grammar, or a field of a formatted string, which is parsed on its own. -/
inductive FaultSource
  | characters
  | tokens
  | grammar
  | field
deriving DecidableEq

/-- A fault found while parsing. -/
structure ParseFault where
  source : FaultSource
  fault : SyntaxFault

/-- The outcome of a parser; where it succeeds, it has consumed a number of tokens. -/
inductive Outcome (α : Type)
  | ok (a : α) (used : Nat) (m : ParseMemory)
  | fail (m : ParseMemory)
  | fault (f : ParseFault) (m : ParseMemory)

/-- The outcome of parsing further tokens after some that were consumed before. -/
def Outcome.after {α : Type} (before : Nat) : Outcome α → Outcome α
  | .ok a used m => .ok a (before + used) m
  | .fail m => .fail m
  | .fault f m => .fault f m

/-- What stays the same during a parse. With `complain` the rules that recognise common mistakes are
tried as well. -/
structure ParseEnv where
  tokens : Tokens
  complain : Bool

/-- A parser, which starts at a token. -/
def Parser (α : Type) : Type :=
  ParseEnv → Nat → ParseMemory → Outcome α

namespace Parser

instance : Monad Parser where
  pure a := fun _ _ m => .ok a 0 m
  bind p f := fun env i m =>
    match p env i m with
    | .ok a n m' => (f a env (i + n) m').after n
    | .fail m' => .fail m'
    | .fault e m' => .fault e m'

/-- Fails. -/
def fail {α : Type} : Parser α :=
  fun _ _ m => .fail m

/-- Ordered choice: the second parser starts where the first one did. -/
def or {α : Type} (p q : Parser α) : Parser α := fun env i m =>
  match p env i m with
  | .ok a n m' => .ok a n m'
  | .fail m' => q env i m'
  | .fault e m' => .fault e m'

instance {α : Type} : OrElse (Parser α) where
  orElse p q := Parser.or p (q ())

/-- Parses the first part and then is committed: only if the first part fails is the other parser
tried. -/
def commit {α β : Type} (first : Parser β) (rest : β → Parser α) (other : Parser α) : Parser α :=
  fun env i m =>
    match first env i m with
    | .ok b n m' => (rest b env (i + n) m').after n
    | .fail m' => other env i m'
    | .fault e m' => .fault e m'

/-- An optional part. -/
def optional {α : Type} (p : Parser α) : Parser (Option α) :=
  Parser.or (some <$> p) (pure none)

/-- Succeeds if the parser would, without consuming anything. -/
def ahead {α : Type} (p : Parser α) : Parser Unit := fun env i m =>
  match p env i m with
  | .ok _ _ m' => .ok () 0 m'
  | .fail m' => .fail m'
  | .fault e m' => .fault e m'

/-- Succeeds if the parser would fail, without consuming anything. -/
def notAhead {α : Type} (p : Parser α) : Parser Unit := fun env i m =>
  match p env i m with
  | .ok _ _ m' => .fail m'
  | .fail m' => .ok () 0 m'
  | .fault e m' => .fault e m'

/-- Repeats at most `fuel` times, as long as the parser succeeds. -/
def manyUpTo {α : Type} (p : Parser α) : Nat → Parser (List α)
  | 0 => pure []
  | fuel + 1 => fun env i m =>
    match p env i m with
    | .ok a n m' =>
      match manyUpTo p fuel env (i + n) m' with
      | .ok as k m'' => .ok (a :: as) (n + k) m''
      | .fail m'' => .fail m''
      | .fault e m'' => .fault e m''
    | .fail m' => .ok [] 0 m'
    | .fault e m' => .fault e m'

/-- How often a parser is repeated at most. Each repetition consumes a token, and no source has as many. -/
def mostRepeats : Nat :=
  4294967296

/-- Repeats as long as the parser succeeds. -/
def many {α : Type} (p : Parser α) : Parser (List α) :=
  manyUpTo p mostRepeats

/-- One or more. -/
def many1 {α : Type} (p : Parser α) : Parser (List α) := do
  let a ← p
  let as ← many p
  pure (a :: as)

/-- One or more with separators between them. -/
def sepBy1 {α β : Type} (p : Parser α) (sep : Parser β) : Parser (List α) := do
  let a ← p
  let as ← many (do let _ ← sep; p)
  pure (a :: as)

/-- Extends a value as long as a step applies to it, at most `fuel` times. -/
def growUpTo {α : Type} (step : α → Parser α) (a : α) : Nat → Parser α
  | 0 => pure a
  | fuel + 1 => fun env i m =>
    match step a env i m with
    | .ok b n m' => (growUpTo step b fuel env (i + n) m').after n
    | .fail m' => .ok a 0 m'
    | .fault e m' => .fault e m'

/-- Extends a value as long as a step applies to it. -/
def grow {α : Type} (step : α → Parser α) (a : α) : Parser α :=
  growUpTo step a mostRepeats

/-- The next token, which is consumed. -/
def any : Parser Token := fun env i m =>
  match env.tokens.tokens[i]? with
  | some t => .ok t 1 { m with seen := max m.seen (i + 1) }
  | none =>
    match env.tokens.fault with
    | some f =>
      .fault ⟨if f.lexical then .characters else .tokens, f.fault⟩
        { m with seen := max m.seen (i + 1) }
    | none => .fail m

/-- The next token, which is not consumed. -/
def peek : Parser Token := fun env i m =>
  match any env i m with
  | .ok t _ m' => .ok t 0 m'
  | .fail m' => .fail m'
  | .fault e m' => .fault e m'

/-- A token that passes a test. -/
def satisfy (test : Token → Bool) : Parser Token := fun env i m =>
  match any env i m with
  | .ok t n m' => if test t then .ok t n m' else .fail m'
  | .fail m' => .fail m'
  | .fault e m' => .fault e m'

/-- A given operator. -/
def op (text : String) : Parser Token :=
  satisfy fun t => t.kind == .operator && t.text == text

/-- A given reserved word. -/
def word (text : String) : Parser Token :=
  satisfy fun t => t.kind == .keyword && t.text == text

/-- A word that is reserved only in its place. -/
def softWord (text : String) : Parser Token :=
  satisfy fun t => t.kind == .name && t.text == text

/-- A token of a kind. -/
def kind (k : TokenKind) : Parser Token :=
  satisfy fun t => t.kind == k

/-- A name. -/
def name : Parser Token :=
  kind .name

/-- A part between two operators. -/
def between {α : Type} (opening : String) (p : Parser α) (closing : String) : Parser α := do
  let _ ← op opening
  let a ← p
  let _ ← op closing
  pure a

/-- One or more with commas between them, and possibly a comma at the end. -/
def commaSeparated {α : Type} (p : Parser α) : Parser (List α) := do
  let as ← sepBy1 p (op ",")
  let _ ← optional (op ",")
  pure as

/-- The token that was consumed last. -/
def previous? : Parser (Option Token) := fun env i m =>
  .ok (env.tokens.tokens[i - 1]?) 0 m

/-- The last token looked at. -/
def lastSeen? : Parser (Option Token) := fun env _ m =>
  .ok (env.tokens.tokens[m.seen - 1]?) 0 m

/-- Finds a fault of the grammar. -/
def raise {α : Type} (f : SyntaxFault) : Parser α :=
  fun _ _ m => .fault ⟨.grammar, f⟩ m

/-- Passes on a fault found in a field of a formatted string. -/
def raiseInField {α : Type} (f : SyntaxFault) : Parser α :=
  fun _ _ m => .fault ⟨.field, f⟩ m

/-- Whether rules for common mistakes are tried. -/
def complaining : Parser Bool :=
  fun env _ m => .ok env.complain 0 m

/-- Runs a parser without the rules for common mistakes. -/
def quietly {α : Type} (p : Parser α) : Parser α :=
  fun env i m => p { env with complain := false } i m

/-- The first complaint that matches decides: it finds a fault, or the whole rule fails. -/
def complaints {α : Type} : List (Parser Unit) → Parser α
  | [] => fail
  | p :: rest => fun env i m =>
    match p env i m with
    | .ok _ _ m' => .fail m'
    | .fail m' => complaints rest env i m'
    | .fault e m' => .fault e m'

/-- Tries complaints if they are wanted. -/
def complain {α : Type} (ps : List (Parser Unit)) : Parser α := fun env i m =>
  if env.complain then complaints ps env i m else .fail m

/-- Keeps the answer of a rule at each token. -/
def memo (rule : Kept) (p : Parser Parsed) : Parser Parsed := fun env i m =>
  match m.exprs[(i, rule)]? with
  | some .failed => .fail m
  | some (.found a n) => .ok a n m
  | none =>
    match p env i m with
    | .ok a n m' => .ok a n { m' with exprs := m'.exprs.insert (i, rule) (.found a n) }
    | .fail m' => .fail { m' with exprs := m'.exprs.insert (i, rule) .failed }
    | .fault e m' => .fault e m'

/-- Keeps the answer of the rule for blocks at a token. -/
def keepBlock (p : Parser (List Stmt)) : Parser (List Stmt) := fun env i m =>
  match p env i m with
  | .ok a n m' => .ok a n { m' with blocks := m'.blocks.insert i (.found a n) }
  | .fail m' => .fail { m' with blocks := m'.blocks.insert i .failed }
  | .fault e m' => .fault e m'

/-- The rule for blocks with its answers kept. A block is only asked for again by the rules for common mistakes, so
that its answer is of no use without them. -/
def memoBlock (p : Parser (List Stmt)) : Parser (List Stmt) := fun env i m =>
  if env.complain then
    match m.blocks[i]? with
    | some .failed => .fail m
    | some (.found a n) => .ok a n m
    | none => keepBlock p env i m
  else p env i m

/-- Begins without the answers of the rules that were tried before, which are of no use in a new line. -/
def afresh {α : Type} (p : Parser α) : Parser α := fun env i m =>
  p env i { m with exprs := ∅ }

end Parser

/-- Where a token begins. -/
def Token.origin (t : Token) : Origin :=
  ⟨t.place, t.offset⟩

/-- Whether a token has characters, and so a place of its own. -/
def Token.isPlaced (t : Token) : Bool :=
  !(t.kind == .indent || t.kind == .dedent || t.kind == .finish)

/-- Whether a token stands inside a line. -/
def Token.isInner (t : Token) : Bool :=
  t.isPlaced && !(t.kind == .newline)

namespace Parser

/-- A fault of a kind at an origin. -/
def raiseKindAt {α : Type} (k : SyntaxKind) (o : Origin) (message : Text) : Parser α :=
  raise ⟨k, message, o.place.line, o.offset + 1⟩

/-- A fault at an origin. -/
def raiseAt {α : Type} (o : Origin) (message : Text) : Parser α :=
  raiseKindAt .syntactic o message

/-- A fault at a token; one without characters stands before its line. -/
def raiseAtToken {α : Type} (t : Token) (message : Text) : Parser α :=
  if t.isPlaced then raiseAt t.origin message
  else raise ⟨.syntactic, message, t.place.line, 0⟩

/-- A fault of a kind at the last token looked at. -/
def raiseKindHere {α : Type} (k : SyntaxKind) (message : Text) : Parser α := do
  match ← lastSeen? with
  | some t =>
    if t.isPlaced then raiseKindAt k t.origin message
    else raise ⟨k, message, t.place.line, t.offset⟩
  | none => raise ⟨k, message, 0, 0⟩

/-- A fault at the last token looked at. -/
def raiseHere {α : Type} (message : Text) : Parser α :=
  raiseKindHere .syntactic message

/-- An operator without which no parse is possible. -/
def demand (text : String) : Parser Token := do
  let t ← any
  if t.kind == .operator && t.text == text then pure t
  else raiseAtToken t ("expected '" ++ Text.ofString text ++ "'")

end Parser

end FluentRecords
