import FluentRecords.Proofs.Session.Run
import FluentRecords.Proofs.Session.Setup

/-!
What single expressions of a builder class come to. Inside a method `self` is the receiver, the support
module is found under its alias, and an attribute of the receiver is read under its kept name.
-/

namespace FluentRecords

/-- What a name can stand for: neither a method nor what makes reports. -/
def Datum.IsNamed : Datum → Prop
  | .method _ _ => False
  | .classMethod _ => False
  | .reporter => False
  | _ => True

namespace Machine

variable {m : Machine} {b : BuilderShape} {settings : Settings} {call : Caller} {f : Frame} {h : Heap}

/-- What a name stands for in a frame, if it stands for anything. -/
def meaning (m : Machine) (f : Frame) (n : Text) : Option Datum :=
  if f.inClass && n == Text.ofString "__class__" then some .builderClass
  else (Cells.get? f.locals n).or (Cells.get? m.globals n)

theorem lookup_meaning (m : Machine) (f : Frame) (n : Text) :
    m.lookup f n = match m.meaning f n with
      | some d => pure d
      | none => throw (.undefined n) := by
  unfold lookup meaning
  split
  · rfl
  · simp only [Cells.get?]
    cases f.locals.find? (·.1 == n) with
    | some found => rfl
    | none =>
      cases m.globals.find? (·.1 == n) with
      | some found => rfl
      | none => rfl

theorem meaning_eq {n : Text} (ordinary : f.inClass = false ∨ n ≠ Text.ofString "__class__") :
    m.meaning f n = (Cells.get? f.locals n).or (Cells.get? m.globals n) := by
  have other : (f.inClass && n == Text.ofString "__class__") = false := by
    rcases ordinary with outside | other
    · rw [outside, Bool.false_and]
    · rw [beq_eq_false_iff_ne.mpr other, Bool.and_false]
  rw [meaning, other, if_neg Bool.false_ne_true]

theorem lookup_eq {n : Text} (ordinary : f.inClass = false ∨ n ≠ Text.ofString "__class__") :
    m.lookup f n = match (Cells.get? f.locals n).or (Cells.get? m.globals n) with
      | some d => pure d
      | none => throw (.undefined n) := by
  rw [lookup_meaning, meaning_eq ordinary]

/-- A name stands for something that is no method. -/
theorem meaning_named {n : Text} {d : Datum} (locals : ∀ d, Cells.get? f.locals n = some d → d.IsNamed)
    (globals : ∀ d, Cells.get? m.globals n = some d → d.IsNamed) (means : m.meaning f n = some d) :
    d.IsNamed := by
  by_cases ordinary : f.inClass = false ∨ n ≠ Text.ofString "__class__"
  · rw [meaning_eq ordinary] at means
    cases inner : Cells.get? f.locals n with
    | some found =>
      rw [inner, Option.some_or] at means
      exact Option.some.inj means ▸ locals found inner
    | none =>
      rw [inner, Option.none_or] at means
      exact globals d means
  · rw [not_or, Bool.not_eq_false, not_not] at ordinary
    rw [meaning, ordinary.1, ordinary.2] at means
    cases means
    trivial

theorem spelled_of_not_private {n : Text} (plain : Text.isPrivate n = false) : m.spelled f n = n := by
  unfold spelled
  split
  · exact Text.mangle_of_not_private plain
  · rfl

/-- A frame of a method: its receiver is called `self`, and no local name is that of a method. -/
structure InMethod (f : Frame) (receiver : Datum) : Prop where
  inClass : f.inClass = true
  self : Cells.get? f.locals "self" = some receiver
  unhidden : Cells.get? f.locals supportAlias = none
  named : ∀ n d, Cells.get? f.locals n = some d → d.IsNamed

theorem InMethod.yields_self {receiver : Datum} (frame : InMethod f receiver) :
    Yields (m.eval call f (.name "self")) h receiver h := by
  rw [eval_name, spelled_of_not_private (by decide), lookup_eq (Or.inr (by decide)), frame.self]
  rfl

/-- An attribute of the receiver is read under its kept name. -/
theorem InMethod.yields_selfMember {receiver d : Datum} {attr : Text} (frame : InMethod f receiver)
    (read : Yields (m.readAttribute receiver (Text.mangle m.cls.name attr)) h d h) :
    Yields (m.eval call f (Emission.selfMember attr)) h d h := by
  rw [Emission.selfMember, eval]
  refine frame.yields_self.bind ?_
  rwa [spelled, frame.inClass, if_pos rfl]

/-- The support module is found under its alias. -/
def HasSupport (m : Machine) : Prop :=
  Cells.get? m.globals supportAlias = some .support

theorem InMethod.yields_missing {receiver : Datum} (frame : InMethod f receiver) (support : m.HasSupport) :
    Yields (m.eval call f Emission.missing) h .missing h := by
  rw [Emission.missing, Emission.support, eval, eval_name, spelled_of_not_private (by decide),
    spelled_of_not_private (by decide), lookup_eq (Or.inr (by decide)), frame.unhidden, Option.none_or, support]
  rfl

theorem InMethod.yields_reporter {receiver : Datum} (frame : InMethod f receiver) (support : m.HasSupport) :
    Yields (m.eval call f (Emission.support "MissingFieldError")) h .reporter h := by
  rw [Emission.support, eval, eval_name, spelled_of_not_private (by decide),
    spelled_of_not_private (by decide), lookup_eq (Or.inr (by decide)), frame.unhidden, Option.none_or, support]
  rfl

theorem InMethod.yields_isMissing (call : Caller) {receiver d : Datum} {attr : Text} (frame : InMethod f receiver)
    (support : m.HasSupport)
    (read : Yields (m.readAttribute receiver (Text.mangle m.cls.name attr)) h d h) :
    Yields (m.eval call f (Emission.isMissing (Emission.selfMember attr))) h
      (.value (.bool (bothMissing d .missing))) h := by
  rw [Emission.isMissing, eval]
  exact (frame.yields_selfMember read).bind ((frame.yields_missing support).bind .pure)

/-- A call of a method runs its body in a frame with one argument for each parameter. -/
theorem run_runBody {inClass : Bool} {method : Method} {args : List Datum} (locals : Locals)
    (bound : bindArgs method.label method.params args [] = .ok locals) :
    m.runBody call inClass method args [] = m.execAll call ⟨inClass, locals⟩ method.body >>= fun flow =>
      match flow with
      | .next _ => pure (.value .none)
      | .done d => pure d := by
  rw [runBody, bound]
  rfl

/-- A method that is called gets its builder as its first argument, and one of the class the class. -/
theorem call_method (fuel : Nat) {n : Text} {method : Method} (found : m.cls.method? n = some method) (id : Nat)
    (args : List Datum) (keywords : List (Text × Datum)) :
    m.call (fuel + 1) (.method id n) args keywords =
      m.runBody (m.call fuel) true method (.builder id :: args) keywords := by
  rw [Machine.call]
  dsimp only
  rw [found]

theorem call_classMethod (fuel : Nat) {n : Text} {method : Method} (found : m.cls.method? n = some method)
    (args : List Datum) (keywords : List (Text × Datum)) :
    m.call (fuel + 1) (.classMethod n) args keywords =
      m.runBody (m.call fuel) true method (.builderClass :: args) keywords := by
  rw [Machine.call]
  dsimp only
  rw [found]

end Machine

end FluentRecords
