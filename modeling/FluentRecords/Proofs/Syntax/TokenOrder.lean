import FluentRecords.Proofs.Syntax.TokenLength
import FluentRecords.Syntax.Grammar.Parser
import Mathlib.Data.List.Basic

/-!
The order of tokens. Reading goes through a source from its start to its end, so that every token stands
where the one before it stands or behind it, and behind it if that one has characters. Marks of indentation
and the end of a line have none, and may share their place with the next token.
-/

namespace FluentRecords

/-- A place is not behind another one. -/
def Pos.AtMost (p q : Pos) : Prop :=
  p.line < q.line ∨ p.line = q.line ∧ p.column ≤ q.column

theorem Pos.AtMost.refl (p : Pos) : p.AtMost p :=
  Or.inr ⟨rfl, Nat.le_refl _⟩

theorem Pos.AtMost.trans {p q r : Pos} (first : p.AtMost q) (next : q.AtMost r) : p.AtMost r := by
  unfold Pos.AtMost at *
  omega

theorem Pos.AtMost.antisymm {p q : Pos} (first : p.AtMost q) (next : q.AtMost p) : p = q := by
  obtain ⟨line, column⟩ := p
  obtain ⟨line', column'⟩ := q
  simp only [Pos.AtMost, Pos.mk.injEq] at *
  omega

/-- A place is in front of another one. -/
def Pos.Before (p q : Pos) : Prop :=
  p.line < q.line ∨ p.line = q.line ∧ p.column < q.column

theorem Pos.not_before_self (p : Pos) : ¬ p.Before p := by
  unfold Pos.Before
  omega

theorem Pos.Before.atMost {p q : Pos} (before : p.Before q) : p.AtMost q :=
  before.imp id (And.imp_right Nat.le_of_lt)

theorem Pos.Before.trans_atMost {p q r : Pos} (first : p.Before q) (next : q.AtMost r) : p.Before r := by
  unfold Pos.Before Pos.AtMost at *
  omega

theorem Pos.AtMost.trans_before {p q r : Pos} (first : p.AtMost q) (next : q.Before r) : p.Before r := by
  unfold Pos.Before Pos.AtMost at *
  omega

namespace Cursor

variable {c : Cursor}

theorem place_enter (c : Cursor) : c.place.AtMost c.enter.place := by
  unfold enter
  split
  · exact Or.inl (Nat.lt_succ_self _)
  · exact .refl _

theorem place_enterJoined (c : Cursor) : c.place.AtMost c.enterJoined.place := by
  unfold enterJoined
  split
  · exact Or.inl (Nat.lt_succ_self _)
  · exact .refl _

theorem place_step (c : Cursor) : c.place.AtMost c.step.place := by
  refine (place_enterJoined c).trans ?_
  unfold step
  dsimp only
  split
  · exact .refl _
  · exact Or.inr ⟨rfl, Nat.le_add_right _ _⟩

theorem rest_enterJoined (c : Cursor) : c.enterJoined.rest = c.rest := by
  unfold enterJoined
  split <;> rfl

/-- Reading a character moves on. -/
theorem place_step_before (some : c.rest ≠ []) : c.place.Before c.step.place := by
  refine (place_enterJoined c).trans_before ?_
  unfold step
  dsimp only
  split
  · rename_i none
    exact absurd (c.rest_enterJoined.symm.trans none) some
  · rename_i x rest _
    exact Or.inr ⟨rfl, Nat.lt_add_of_pos_right x.utf8Size_pos⟩

theorem place_advance (c : Cursor) (n : Nat) : c.place.AtMost (c.advance n).place := by
  induction n generalizing c with
  | zero => exact .refl _
  | succ n ih => exact (place_step c).trans (ih c.step)

theorem place_advance_before {n : Nat} (some : c.rest ≠ []) (positive : n ≠ 0) :
    c.place.Before (c.advance n).place := by
  obtain ⟨k, rfl⟩ := Nat.exists_eq_succ_of_ne_zero positive
  exact (place_step_before some).trans_atMost (c.step.place_advance k)

end Cursor

namespace Reader

theorem place_skipComment (c : Cursor) : c.place.AtMost (skipComment c).place :=
  c.place_advance _

theorem place_continueLine {c c' : Cursor} (run : continueLine c = .ok c') : c.place.AtMost c'.place := by
  unfold continueLine at run
  dsimp only at run
  split at run
  · split at run
    · cases run
    · cases run
      exact c.place_step.trans c.step.place_step
  · cases run
  · cases run

/-- Measuring the indentation of a line enters it and goes on behind a character, or is done. -/
theorem margin_step {m m' : Margin} {fuel : Nat} (run : margin m (fuel + 1) = .ok m') :
    ∃ next : Margin, m.cursor.enter.place.AtMost next.cursor.place ∧ (margin next fuel = .ok m' ∨ next = m') := by
  have stepped := m.cursor.enter.place_step
  unfold margin at run
  dsimp only at run
  split at run
  · exact ⟨_, stepped, Or.inl run⟩
  · exact ⟨_, stepped, Or.inl run⟩
  · exact ⟨_, stepped, Or.inl run⟩
  · cases continued : continueLine m.cursor.enter with
    | error f =>
      rw [continued] at run
      cases run
    | ok next =>
      rw [continued] at run
      exact ⟨_, place_continueLine continued, Or.inl run⟩
  · cases run
    exact ⟨_, .refl _, Or.inr rfl⟩

/-- It goes on through the source. -/
theorem place_margin {m m' : Margin} {fuel : Nat} (run : margin m fuel = .ok m') :
    m.cursor.place.AtMost m'.cursor.place := by
  induction fuel generalizing m with
  | zero =>
    cases run
    exact .refl _
  | succ fuel ih =>
    obtain ⟨next, onward, run | rfl⟩ := margin_step run
    · exact (m.cursor.place_enter.trans onward).trans (ih run)
    · exact m.cursor.place_enter.trans onward

theorem place_margin_enter {m m' : Margin} {fuel : Nat} (run : margin m (fuel + 1) = .ok m') :
    m.cursor.enter.place.AtMost m'.cursor.place := by
  obtain ⟨next, onward, run | rfl⟩ := margin_step run
  · exact onward.trans (place_margin run)
  · exact onward

theorem place_skipBlanks (c : Cursor) (fuel : Nat) : c.place.AtMost (skipBlanks c fuel).place := by
  induction fuel generalizing c with
  | zero => exact .refl _
  | succ fuel ih =>
    have entered := c.place_enter
    have stepped := entered.trans c.enter.place_step
    unfold skipBlanks
    dsimp only
    split
    · exact stepped.trans (ih _)
    · exact stepped.trans (ih _)
    · exact stepped.trans (ih _)
    · exact entered

end Reader

/-- A place is not in front of a token, and behind it if that stands inside a line. -/
structure Token.Passed (t : Token) (p : Pos) : Prop where
  atMost : t.place.AtMost p
  before : t.isInner = true → t.place.Before p

theorem Token.Passed.later {t : Token} {p q : Pos} (passed : t.Passed p) (next : p.AtMost q) : t.Passed q :=
  ⟨passed.atMost.trans next, fun inner => (passed.before inner).trans_atMost next⟩

theorem Token.passed_of_mark {t : Token} {p : Pos} (mark : t.isInner = false) (atMost : t.place.AtMost p) :
    t.Passed p :=
  ⟨atMost, fun inner => absurd (mark.symm.trans inner) Bool.false_ne_true⟩

theorem Token.passed_of_before {t : Token} {p : Pos} (before : t.place.Before p) : t.Passed p :=
  ⟨before.atMost, fun _ => before⟩

/-- A reading step goes on from a place: a token that it gives stands there or behind, and reading goes on
from where the token is passed. -/
def ReadStep.Onward (p : Pos) : ReadStep → Prop
  | .token t next => p.AtMost t.place ∧ t.Passed next.cursor.place
  | .skip next => p.AtMost next.cursor.place
  | .finish t => p.AtMost t.place
  | .fault _ => True

theorem ReadStep.Onward.from {p q : Pos} {s : ReadStep} (onward : s.Onward q) (before : p.AtMost q) :
    s.Onward p := by
  cases s with
  | token t next => exact ⟨before.trans onward.1, onward.2⟩
  | skip next => exact before.trans onward
  | finish t => exact before.trans onward
  | fault f => exact trivial

namespace Reader

theorem onward_endFault (r : Reader) (p : Pos) : r.endFault.Onward p := by
  unfold endFault
  split <;> exact trivial

theorem onward_marginFault (r : Reader) (f : MarginFault) (p : Pos) : (r.marginFault f).Onward p := by
  cases f with
  | badContinuation c => exact trivial
  | endOfSource c => exact onward_endFault _ p

theorem onward_indentTo (r : Reader) (wide narrow : Nat) : (r.indentTo wide narrow).Onward r.cursor.place := by
  unfold indentTo
  dsimp only
  split
  · split
    · exact .refl _
    · exact trivial
  · split
    · split
      · exact trivial
      · split
        · exact trivial
        · exact .refl _
    · split
      · exact trivial
      · split
        · exact trivial
        · exact .refl _

/-- The start of a line goes on from the line that it enters. -/
theorem onward_lineStart (r : Reader) : r.lineStart.Onward r.cursor.enter.place := by
  unfold lineStart
  split
  · exact onward_marginFault r _ _
  · rename_i m measured
    have reached := place_margin_enter measured
    dsimp only
    split
    · exact reached.trans ((place_skipComment m.cursor).trans (Cursor.place_step _))
    · exact reached.trans m.cursor.place_step
    · split
      · exact reached
      · split
        · exact (onward_indentTo _ _ _).from reached
        · exact (onward_indentTo _ _ _).from reached

theorem onward_lexemeStep (r : Reader) (kind : TokenKind) {length : Nat} (some : r.cursor.rest ≠ [])
    (positive : length ≠ 0) : (r.lexemeStep kind length).Onward r.cursor.place :=
  ⟨.refl _, Token.passed_of_before (Cursor.place_advance_before some positive)⟩

theorem onward_stringStep (r : Reader) (letters : Nat) (some : r.cursor.rest ≠ []) :
    (r.stringStep letters).Onward r.cursor.place := by
  unfold stringStep
  dsimp only
  split
  · rename_i closed
    have positive := stringExtent_pos closed
    exact onward_lexemeStep r .string some (by omega)
  · exact trivial

theorem onward_nameStep (r : Reader) {c : Char} {rest : List Char} (reading : r.cursor.rest = c :: rest)
    (named : Numeral.isNameChar c = true) : r.nameStep.Onward r.cursor.place := by
  have some : r.cursor.rest ≠ [] := by
    rw [reading]
    exact List.cons_ne_nil c rest
  have positive : (r.cursor.rest.takeWhile Numeral.isNameChar).length ≠ 0 := by
    rw [reading, List.takeWhile_cons_of_pos named]
    exact Nat.succ_ne_zero _
  have before := Cursor.place_advance_before some positive
  unfold nameStep
  dsimp only
  split
  · split <;> exact trivial
  · split
    · exact ⟨.refl _, Token.passed_of_before before⟩
    · exact ⟨.refl _, Token.passed_of_before before⟩

theorem onward_openStep (r : Reader) (c : Char) (some : r.cursor.rest ≠ []) :
    (r.openStep c).Onward r.cursor.place := by
  unfold openStep
  split
  · exact trivial
  · exact onward_lexemeStep { r with brackets := ⟨c, r.cursor.line, r.cursor.chars⟩ :: r.brackets } .operator
      some Nat.one_ne_zero

theorem onward_closeStep (r : Reader) (c : Char) (some : r.cursor.rest ≠ []) :
    (r.closeStep c).Onward r.cursor.place := by
  unfold closeStep
  split
  · exact trivial
  · split
    · rename_i rest _ _
      exact onward_lexemeStep { r with brackets := rest } .operator some Nat.one_ne_zero
    · exact trivial

theorem onward_operatorStep (r : Reader) (c : Char) (some : r.cursor.rest ≠ []) :
    (r.operatorStep c).Onward r.cursor.place := by
  unfold operatorStep
  split
  · rename_i op found
    exact onward_lexemeStep r .operator some (Nat.ne_of_gt (longOperators_pos op (List.mem_of_find?_eq_some found)))
  · split
    · exact onward_openStep r c some
    · split
      · exact onward_closeStep r c some
      · split
        · exact onward_lexemeStep r .operator some Nat.one_ne_zero
        · exact trivial

theorem onward_numberStep (r : Reader) {c : Char} {rest : List Char} (reading : r.cursor.rest = c :: rest)
    (first : c.isDigit = true ∨ c = '.') : r.numberStep.Onward r.cursor.place := by
  unfold numberStep
  split
  · rename_i n scanned
    rw [reading] at scanned
    refine onward_lexemeStep r .number ?_ (Nat.ne_of_gt (Numeral.scan_pos first scanned))
    rw [reading]
    exact List.cons_ne_nil c rest
  · exact trivial

/-- The end of a line stands where the blanks or the comment before it begin. -/
theorem onward_newlineStep (r : Reader) {start : Cursor} (before : start.place.AtMost r.cursor.place) :
    (r.newlineStep start).Onward start.place := by
  have stepped := before.trans r.cursor.place_step
  unfold newlineStep
  dsimp only
  split
  · exact ⟨.refl _, Token.passed_of_mark rfl stepped⟩
  · exact stepped

theorem onward_tokenStep (r : Reader) : r.tokenStep.Onward r.cursor.place := by
  have skipped := place_skipBlanks r.cursor r.cursor.rest.length
  unfold tokenStep
  generalize skipBlanks r.cursor r.cursor.rest.length = c at skipped ⊢
  dsimp only
  split
  · split
    · exact skipped
    · exact onward_endFault _ _
  · rename_i x rest reading
    have some : c.rest ≠ [] := by
      rw [reading]
      exact List.cons_ne_nil x rest
    refine ReadStep.Onward.from (q := c.place) ?_ skipped
    split
    · split
      · exact place_skipComment c
      · exact onward_newlineStep _ (place_skipComment c)
    · split
      · exact onward_newlineStep _ (.refl _)
      · split
        · split
          · rename_i c' continued
            exact (place_continueLine continued).trans c'.place_enterJoined
          · exact onward_marginFault _ _ _
        · split
          · exact onward_stringStep { r with cursor := c } _ some
          · split
            · rename_i digit
              exact onward_numberStep { r with cursor := c } reading (Or.inl digit)
            · split
              · rename_i named
                exact onward_nameStep { r with cursor := c } reading named
              · split
                · rename_i point
                  rw [Bool.and_eq_true, beq_iff_eq] at point
                  exact onward_numberStep { r with cursor := c } reading (Or.inr point.1)
                · exact onward_operatorStep { r with cursor := c } _ some

/-- Each reading step goes on through the source. -/
theorem onward_next (r : Reader) : r.next.Onward r.cursor.place := by
  unfold next
  split
  · exact ⟨.refl _, Token.passed_of_mark rfl (.refl _)⟩
  · split
    · exact ⟨.refl _, Token.passed_of_mark rfl (.refl _)⟩
    · split
      · exact (onward_lineStart r).from r.cursor.place_enter
      · exact onward_tokenStep r

/-- Tokens in order, all of them passed at a place. -/
structure Ordered (ts : List Token) (p : Pos) : Prop where
  pairwise : ts.Pairwise fun t u => t.Passed u.place
  passed : ∀ t ∈ ts, t.Passed p

theorem Ordered.later {ts : List Token} {p q : Pos} (ordered : Ordered ts p) (next : p.AtMost q) : Ordered ts q :=
  ⟨ordered.pairwise, fun t member => (ordered.passed t member).later next⟩

theorem Ordered.pairwise_push {ts : Array Token} {t : Token} (ordered : Ordered ts.toList t.place) :
    (ts.push t).toList.Pairwise fun t u => t.Passed u.place := by
  rw [Array.toList_push]
  refine List.pairwise_append.mpr ⟨ordered.pairwise, List.pairwise_singleton _ t, fun u member v last => ?_⟩
  rw [List.mem_singleton.mp last]
  exact ordered.passed u member

theorem Ordered.push {ts : Array Token} {t : Token} {p : Pos} (ordered : Ordered ts.toList t.place)
    (passed : t.Passed p) : Ordered (ts.push t).toList p := by
  refine ⟨ordered.pairwise_push, fun u member => ?_⟩
  rw [Array.toList_push] at member
  rcases List.mem_append.mp member with old | new
  · exact (ordered.passed u old).later passed.atMost
  · rwa [List.mem_singleton.mp new]

theorem readAll_pairwise {r : Reader} {done : Array Token} (ordered : Ordered done.toList r.cursor.place)
    (fuel : Nat) : (readAll r done fuel).1.toList.Pairwise fun t u => t.Passed u.place := by
  induction fuel generalizing r done with
  | zero => exact ordered.pairwise
  | succ fuel ih =>
    have onward := onward_next r
    unfold readAll
    split
    · rename_i t next step
      rw [step] at onward
      exact ih ((ordered.later onward.1).push onward.2)
    · rename_i next step
      rw [step] at onward
      exact ih (ordered.later onward)
    · rename_i t step
      rw [step] at onward
      exact (ordered.later onward).pairwise_push
    · exact ordered.pairwise

/-- Where reading goes on from a place, so do all tokens. -/
theorem readAll_from {p : Pos} {r : Reader} {done : Array Token} (onward : r.next.Onward p)
    (all : ∀ t ∈ done.toList, p.AtMost t.place) (fuel : Nat) :
    ∀ t ∈ (readAll r done fuel).1.toList, p.AtMost t.place := by
  have pushed {t : Token} {done : Array Token} (all : ∀ t ∈ done.toList, p.AtMost t.place) (own : p.AtMost t.place) :
      ∀ u ∈ (done.push t).toList, p.AtMost u.place := by
    rw [Array.toList_push]
    exact fun u member => (List.mem_append.mp member).elim (all u) fun last => List.mem_singleton.mp last ▸ own
  induction fuel generalizing r done with
  | zero => exact all
  | succ fuel ih =>
    unfold readAll
    split
    · rename_i t next step
      rw [step] at onward
      exact ih ((onward_next next).from (onward.1.trans onward.2.atMost)) (pushed all onward.1)
    · rename_i next step
      rw [step] at onward
      exact ih ((onward_next next).from onward) all
    · rename_i t step
      rw [step] at onward
      exact pushed all onward
    · exact all

end Reader

/-- The tokens of a source stand in the order of their places, those behind one with characters behind its place. -/
theorem Tokens.pairwise_ofSource (cs : List Char) :
    (Tokens.ofSource cs).tokens.toList.Pairwise fun t u => t.Passed u.place := by
  have start : Reader.Ordered (#[] : Array Token).toList (Reader.start cs).cursor.place :=
    ⟨.nil, fun _ member => by cases member⟩
  unfold ofSource
  exact Reader.readAll_pairwise start _

/-- No token of a source that has characters stands in front of its first line. -/
theorem Tokens.start_atMost {cs : List Char} (some : cs ≠ []) :
    ∀ t ∈ (Tokens.ofSource cs).tokens.toList, Pos.start.AtMost t.place := by
  have entered : (Cursor.start cs).enter.place = Pos.start := by
    cases cs with
    | nil => exact absurd rfl some
    | cons c rest => rfl
  have onward : (Reader.start cs).next.Onward Pos.start := entered ▸ Reader.onward_lineStart (.start cs)
  unfold ofSource
  exact Reader.readAll_from onward (fun _ none => by cases none) _

end FluentRecords
