import FluentRecords.Denotation
import FluentRecords.Proofs.Outcome

/-!
Literals that break down. Parts are read from left to right, and the first one that cannot be read decides: most
of them are only no literals, but a member of a set or a key that has no fixed identity, and an integer too large
for a complex number, end the reading without a report.
-/

namespace FluentRecords

namespace Expr

/-- An expression is a literal whose value is known. -/
def Reads (e : Expr) : Prop :=
  ∃ v, e.literal = .ok v

/-- A literal that can be a key or a member of a set. -/
def ReadsKey (e : Expr) : Prop :=
  ∃ v, e.literal = .ok v ∧ v.unkeyable? = none

end Expr

/-- An entry of a dictionary that is read. -/
def DictItem.Reads : DictItem → Prop
  | .entry k v => k.ReadsKey ∧ v.Reads
  | .unpack _ => False

/-- How an expression breaks down: a part of it does, after others that are read, or a part that is read cannot be
put to its use. -/
inductive Expr.Breaks : Expr → Breakdown → Prop
  | tuple {before after : List Expr} {e : Expr} {b : Breakdown} (read : ∀ x ∈ before, x.Reads)
      (breaks : e.Breaks b) : Breaks (.tuple (before ++ e :: after)) b
  | list {before after : List Expr} {e : Expr} {b : Breakdown} (read : ∀ x ∈ before, x.Reads)
      (breaks : e.Breaks b) : Breaks (.list (before ++ e :: after)) b
  | member {before after : List Expr} {e : Expr} {b : Breakdown} (read : ∀ x ∈ before, x.ReadsKey)
      (breaks : e.Breaks b) : Breaks (.set (before ++ e :: after)) b
  | unhashableMember {before after : List Expr} {e : Expr} {v w : Value} (read : ∀ x ∈ before, x.ReadsKey)
      (literal : e.literal = .ok v) (unkeyable : v.unkeyable? = some w) :
      Breaks (.set (before ++ e :: after)) (.unhashable w.kindName)
  | key {before after : List DictItem} {k v : Expr} {b : Breakdown} (read : ∀ x ∈ before, x.Reads)
      (breaks : k.Breaks b) : Breaks (.dict (before ++ .entry k v :: after)) b
  | value {before after : List DictItem} {k v : Expr} {b : Breakdown} (read : ∀ x ∈ before, x.Reads)
      (key : k.Reads) (breaks : v.Breaks b) : Breaks (.dict (before ++ .entry k v :: after)) b
  | unhashableKey {before after : List DictItem} {k v : Expr} {u w : Value} (read : ∀ x ∈ before, x.Reads)
      (literal : k.literal = .ok u) (value : v.Reads) (unkeyable : u.unkeyable? = some w) :
      Breaks (.dict (before ++ .entry k v :: after)) (.unhashable w.kindName)
  | hugeSum {op : BinaryOp} {l : Expr} {i : Int} {x : Binary64} (sum : op = .add ∨ op = .sub)
      (left : signed l = .ok (.int i)) (huge : (Binary64.ofInt i).magnitude = .infinite) :
      Breaks (.binary op l (.constant (.imaginary x))) .hugeInteger

namespace Value

theorem keyable_eq_ok {v w : Value} : v.keyable = .ok w ↔ v.unkeyable? = Option.none ∧ v = w := by
  unfold keyable
  cases v.unkeyable? with
  | none => simp
  | some u => simp

theorem keyable_eq_error {v : Value} {f : LiteralFault} :
    v.keyable = .error f ↔ ∃ w, v.unkeyable? = some w ∧ f = .breakdown (.unhashable w.kindName) := by
  unfold keyable
  cases v.unkeyable? with
  | none => simp
  | some u => simp [eq_comm]

end Value

namespace Expr

variable {e : Expr} {b : Breakdown} {f : LiteralFault}

theorem unsigned_not_breakdown (e : Expr) : unsigned e ≠ .error (.breakdown b) := by
  intro failed
  cases e with
  | constant c =>
    rw [unsigned] at failed
    split at failed
    · cases failed
    · cases failed
  | _ => cases failed

theorem signed_not_breakdown (e : Expr) : signed e ≠ .error (.breakdown b) := by
  intro failed
  unfold signed at failed
  split at failed
  · exact unsigned_not_breakdown _ failed
  · rcases bind_eq_error.mp failed with first | ⟨v, _, last⟩
    · exact unsigned_not_breakdown _ first
    · split at last
      · cases last
      · cases last
  · exact unsigned_not_breakdown _ failed

theorem unsigned_complex {re im : Binary64} (read : unsigned e = .ok (.complex re im)) :
    ∃ x, e = .constant (.imaginary x) := by
  cases e with
  | constant c =>
    rw [unsigned] at read
    split at read
    · cases c with
      | imaginary x => exact ⟨x, rfl⟩
      | _ => cases read
    · cases read
  | _ => cases read

theorem realPart_eq_breakdown {v : Value} : v.realPart = .error (.breakdown b) ↔
    ∃ i, v = .int i ∧ (Binary64.ofInt i).magnitude = .infinite ∧ b = .hugeInteger := by
  cases v with
  | int i =>
    rw [Value.realPart]
    cases size : (Binary64.ofInt i).magnitude with
    | infinite => simp [size, eq_comm]
    | _ => simp [size]
  | _ => simp [Value.realPart]

/-- A sum breaks down only if an imaginary number is added to an integer that is too large. -/
theorem complexSum_eq_breakdown {add : Bool} {l r : Expr} : complexSum add l r = .error (.breakdown b) ↔
    ∃ i x, signed l = .ok (.int i) ∧ (Binary64.ofInt i).magnitude = .infinite ∧ r = .constant (.imaginary x) ∧
      b = .hugeInteger := by
  unfold complexSum
  constructor
  · intro failed
    rcases bind_eq_error.mp failed with first | ⟨v, left, failed⟩
    · exact absurd first (signed_not_breakdown l)
    rcases bind_eq_error.mp failed with second | ⟨w, right, failed⟩
    · exact absurd second (unsigned_not_breakdown r)
    split at failed
    · obtain ⟨x, imaginary⟩ := unsigned_complex right
      rcases bind_eq_error.mp failed with third | ⟨re, _, last⟩
      · obtain ⟨i, rfl, huge, rfl⟩ := realPart_eq_breakdown.mp third
        exact ⟨i, x, left, huge, imaginary, rfl⟩
      · split at last
        · cases last
        · cases last
    · cases failed
  · rintro ⟨i, x, left, huge, rfl, rfl⟩
    refine bind_eq_error.mpr (Or.inr ⟨_, left, bind_eq_error.mpr (Or.inr ⟨_, rfl, ?_⟩)⟩)
    exact bind_eq_error.mpr (Or.inl (realPart_eq_breakdown.mpr ⟨i, rfl, huge, rfl⟩))

theorem breaks_of_binary {op : BinaryOp} {l r : Expr}
    (failed : (Expr.binary op l r).literal = .error (.breakdown b)) : (Expr.binary op l r).Breaks b := by
  have huge : ∀ {add : Bool}, op = .add ∨ op = .sub → complexSum add l r = .error (.breakdown b) →
      (Expr.binary op l r).Breaks b := by
    intro add sum failed
    obtain ⟨i, x, left, huge, rfl, rfl⟩ := complexSum_eq_breakdown.mp failed
    exact .hugeSum sum left huge
  cases op with
  | add => exact huge (Or.inl rfl) failed
  | sub => exact huge (Or.inr rfl) failed
  | _ => cases failed

theorem call_not_breakdown {f : Expr} {args : List Expr} {keywords : List Keyword} :
    (Expr.call f args keywords).literal ≠ .error (.breakdown b) := by
  intro failed
  cases f with
  | name n =>
    cases args with
    | nil =>
      cases keywords with
      | nil =>
        rw [literal] at failed
        split at failed
        · cases failed
        · cases failed
      | cons => cases failed
    | cons => cases failed
  | _ => cases failed

mutual

theorem breaks_of_literal {e : Expr} (failed : e.literal = .error (.breakdown b)) : e.Breaks b := by
  cases e with
  | tuple es =>
    rw [literal] at failed
    rcases bind_eq_error.mp failed with first | ⟨vs, _, last⟩
    · obtain ⟨before, e, after, rfl, read, breaks⟩ := breaks_of_literals first
      exact .tuple read breaks
    · cases last
  | list es =>
    rw [literal] at failed
    rcases bind_eq_error.mp failed with first | ⟨vs, _, last⟩
    · obtain ⟨before, e, after, rfl, read, breaks⟩ := breaks_of_literals first
      exact .list read breaks
    · cases last
  | set es =>
    rw [literal] at failed
    rcases bind_eq_error.mp failed with first | ⟨vs, _, last⟩
    · obtain ⟨before, e, after, rfl, read, breaks | ⟨v, w, literal, unkeyable, rfl⟩⟩ := breaks_of_members first
      · exact .member read breaks
      · exact .unhashableMember read literal unkeyable
    · cases last
  | dict items =>
    rw [literal] at failed
    rcases bind_eq_error.mp failed with first | ⟨es, _, last⟩
    · obtain ⟨before, k, v, after, rfl, read, breaks⟩ := breaks_of_entries first
      rcases breaks with breaks | ⟨key, breaks⟩ | ⟨u, w, literal, value, unkeyable, rfl⟩
      · exact .key read breaks
      · exact .value read key breaks
      · exact .unhashableKey read literal value unkeyable
    · cases last
  | binary op l r => exact breaks_of_binary failed
  | call f args keywords => exact absurd failed call_not_breakdown
  | unary op e => exact absurd failed (signed_not_breakdown (.unary op e))
  | _ => cases failed

theorem breaks_of_literals : ∀ {es : List Expr}, literals es = .error (.breakdown b) →
    ∃ before e after, es = before ++ e :: after ∧ (∀ x ∈ before, x.Reads) ∧ e.Breaks b
  | [], failed => by cases failed
  | e :: rest, failed => by
    rw [literals] at failed
    rcases bind_eq_error.mp failed with first | ⟨v, read, failed⟩
    · exact ⟨[], e, rest, rfl, List.forall_mem_nil _, breaks_of_literal first⟩
    · rcases bind_eq_error.mp failed with later | ⟨vs, _, last⟩
      · obtain ⟨before, e', after, rfl, others, breaks⟩ := breaks_of_literals later
        exact ⟨e :: before, e', after, rfl, List.forall_mem_cons.mpr ⟨⟨v, read⟩, others⟩, breaks⟩
      · cases last

theorem breaks_of_members : ∀ {done : List Value} {es : List Expr}, members done es = .error (.breakdown b) →
    ∃ before e after, es = before ++ e :: after ∧ (∀ x ∈ before, x.ReadsKey) ∧
      (e.Breaks b ∨ ∃ v w, e.literal = .ok v ∧ v.unkeyable? = some w ∧ b = .unhashable w.kindName)
  | _, [], failed => by cases failed
  | done, e :: rest, failed => by
    rw [members] at failed
    rcases bind_eq_error.mp failed with first | ⟨v, read, failed⟩
    · exact ⟨[], e, rest, rfl, List.forall_mem_nil _, Or.inl (breaks_of_literal first)⟩
    rcases bind_eq_error.mp failed with second | ⟨_, keyable, failed⟩
    · obtain ⟨w, unkeyable, same⟩ := Value.keyable_eq_error.mp second
      cases same
      exact ⟨[], e, rest, rfl, List.forall_mem_nil _, Or.inr ⟨v, w, read, unkeyable, rfl⟩⟩
    · obtain ⟨before, e', after, rfl, others, breaks⟩ := breaks_of_members failed
      have here : e.ReadsKey := ⟨v, read, (Value.keyable_eq_ok.mp keyable).1⟩
      exact ⟨e :: before, e', after, rfl, List.forall_mem_cons.mpr ⟨here, others⟩, breaks⟩

theorem breaks_of_entries : ∀ {done : List (Value × Value)} {items : List DictItem},
    entries done items = .error (.breakdown b) →
    ∃ before k v after, items = before ++ .entry k v :: after ∧ (∀ x ∈ before, x.Reads) ∧
      (k.Breaks b ∨ k.Reads ∧ v.Breaks b ∨
        ∃ u w, k.literal = .ok u ∧ v.Reads ∧ u.unkeyable? = some w ∧ b = .unhashable w.kindName)
  | _, [], failed => by cases failed
  | _, .unpack _ :: _, failed => by cases failed
  | done, .entry k v :: rest, failed => by
    rw [entries] at failed
    rcases bind_eq_error.mp failed with first | ⟨u, key, failed⟩
    · exact ⟨[], k, v, rest, rfl, List.forall_mem_nil _, Or.inl (breaks_of_literal first)⟩
    rcases bind_eq_error.mp failed with second | ⟨x, value, failed⟩
    · exact ⟨[], k, v, rest, rfl, List.forall_mem_nil _, Or.inr (Or.inl ⟨⟨u, key⟩, breaks_of_literal second⟩)⟩
    rcases bind_eq_error.mp failed with third | ⟨_, keyable, failed⟩
    · obtain ⟨w, unkeyable, same⟩ := Value.keyable_eq_error.mp third
      cases same
      exact ⟨[], k, v, rest, rfl, List.forall_mem_nil _, Or.inr (Or.inr ⟨u, w, key, ⟨x, value⟩, unkeyable, rfl⟩)⟩
    · obtain ⟨before, k', v', after, rfl, others, breaks⟩ := breaks_of_entries failed
      have here : (DictItem.entry k v).Reads := ⟨⟨u, key, (Value.keyable_eq_ok.mp keyable).1⟩, x, value⟩
      exact ⟨.entry k v :: before, k', v', after, rfl, List.forall_mem_cons.mpr ⟨here, others⟩, breaks⟩

end

theorem literals_error {before after : List Expr} (read : ∀ x ∈ before, x.Reads) (failed : e.literal = .error f) :
    literals (before ++ e :: after) = .error f := by
  induction before with
  | nil =>
    rw [List.nil_append, literals]
    exact bind_eq_error.mpr (Or.inl failed)
  | cons first rest ih =>
    obtain ⟨⟨v, here⟩, others⟩ := List.forall_mem_cons.mp read
    rw [List.cons_append, literals]
    exact bind_eq_error.mpr (Or.inr ⟨v, here, bind_eq_error.mpr (Or.inl (ih others))⟩)

theorem members_error {before after : List Expr} (read : ∀ x ∈ before, x.ReadsKey)
    (failed : e.literal >>= Value.keyable = .error f) (done : List Value) :
    members done (before ++ e :: after) = .error f := by
  induction before generalizing done with
  | nil =>
    rw [List.nil_append, members]
    rcases bind_eq_error.mp failed with first | ⟨v, here, unkeyable⟩
    · exact bind_eq_error.mpr (Or.inl first)
    · exact bind_eq_error.mpr (Or.inr ⟨v, here, bind_eq_error.mpr (Or.inl unkeyable)⟩)
  | cons first rest ih =>
    obtain ⟨⟨v, here, keyable⟩, others⟩ := List.forall_mem_cons.mp read
    rw [List.cons_append, members]
    exact bind_eq_error.mpr (Or.inr ⟨v, here, bind_eq_error.mpr
      (Or.inr ⟨v, Value.keyable_eq_ok.mpr ⟨keyable, rfl⟩, ih others _⟩)⟩)

theorem entries_error {before after : List DictItem} {k v : Expr} (read : ∀ x ∈ before, x.Reads)
    (failed : ∀ done, entries done (.entry k v :: after) = .error f) (done : List (Value × Value)) :
    entries done (before ++ .entry k v :: after) = .error f := by
  induction before generalizing done with
  | nil => exact failed done
  | cons first rest ih =>
    obtain ⟨here, others⟩ := List.forall_mem_cons.mp read
    cases first with
    | unpack e => exact absurd here id
    | entry k' v' =>
      obtain ⟨⟨u, key, keyable⟩, x, value⟩ := here
      rw [List.cons_append, entries]
      exact bind_eq_error.mpr (Or.inr ⟨u, key, bind_eq_error.mpr (Or.inr ⟨x, value, bind_eq_error.mpr
        (Or.inr ⟨u, Value.keyable_eq_ok.mpr ⟨keyable, rfl⟩, ih others _⟩)⟩)⟩)

theorem Breaks.literal (breaks : e.Breaks b) : e.literal = .error (.breakdown b) := by
  induction breaks with
  | tuple read _ ih =>
    rw [Expr.literal]
    exact bind_eq_error.mpr (Or.inl (literals_error read ih))
  | list read _ ih =>
    rw [Expr.literal]
    exact bind_eq_error.mpr (Or.inl (literals_error read ih))
  | member read _ ih =>
    rw [Expr.literal]
    exact bind_eq_error.mpr (Or.inl (members_error read (bind_eq_error.mpr (Or.inl ih)) _))
  | unhashableMember read here unkeyable =>
    rw [Expr.literal]
    have failed := Value.keyable_eq_error.mpr ⟨_, unkeyable, rfl⟩
    exact bind_eq_error.mpr (Or.inl (members_error read (bind_eq_error.mpr (Or.inr ⟨_, here, failed⟩)) _))
  | key read _ ih =>
    rw [Expr.literal]
    refine bind_eq_error.mpr (Or.inl (entries_error read (fun done => ?_) _))
    rw [entries]
    exact bind_eq_error.mpr (Or.inl ih)
  | value read key _ ih =>
    obtain ⟨u, key⟩ := key
    rw [Expr.literal]
    refine bind_eq_error.mpr (Or.inl (entries_error read (fun done => ?_) _))
    rw [entries]
    exact bind_eq_error.mpr (Or.inr ⟨u, key, bind_eq_error.mpr (Or.inl ih)⟩)
  | unhashableKey read here value unkeyable =>
    obtain ⟨x, value⟩ := value
    rw [Expr.literal]
    refine bind_eq_error.mpr (Or.inl (entries_error read (fun done => ?_) _))
    have failed := Value.keyable_eq_error.mpr ⟨_, unkeyable, rfl⟩
    rw [entries]
    exact bind_eq_error.mpr (Or.inr ⟨_, here, bind_eq_error.mpr (Or.inr ⟨x, value, bind_eq_error.mpr (Or.inl failed)⟩)⟩)
  | hugeSum sum left huge =>
    rcases sum with rfl | rfl
    · exact complexSum_eq_breakdown.mpr ⟨_, _, left, huge, rfl, rfl⟩
    · exact complexSum_eq_breakdown.mpr ⟨_, _, left, huge, rfl, rfl⟩

/-- An expression ends its reading without a report exactly if it breaks down. -/
theorem literal_eq_breakdown : e.literal = .error (.breakdown b) ↔ e.Breaks b :=
  ⟨breaks_of_literal, Breaks.literal⟩

end Expr

end FluentRecords
