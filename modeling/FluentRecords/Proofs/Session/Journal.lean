import FluentRecords.Proofs.Session.Cells
import FluentRecords.Proofs.Session.Setup

/-!
Journals of sessions. A journal lists the values written to slot attributes of builders, the latest one
first; what a step writes can be told from the step and from the builders held before it. The cells of a
builder follow a journal if each holds the last value written to it.
-/

namespace FluentRecords

/-- A value written to an attribute of a builder. -/
structure Write where
  builder : Nat
  attr : Text
  value : Value

/-- What was written, the latest first. -/
abbrev Journal := List Write

/-- The last value written to an attribute of a builder. -/
def Journal.last? (j : Journal) (id : Nat) (a : Text) : Option Value :=
  (j.find? fun w => w.builder == id && w.attr == a).map Write.value

/-- The content of a cell: the value last written, or the mark of a slot that was not set. -/
def Datum.ofSlot : Option Value → Datum
  | some v => .value v
  | none => .missing

namespace BuilderShape

variable (b : BuilderShape) (settings : Settings)

/-- The name the class keeps the finalizer under. -/
def keptFinalizer : Text :=
  Text.mangle b.builder settings.finalizerName.val

/-- The attribute that the slot of a field is stored under. -/
def keptSlot (field : Text) : Text :=
  Text.mangle b.builder (95 :: field)

/-- Whether a name is that of a setter that no finalizer hides. -/
def isSetter (n : Text) : Bool :=
  (b.slots.map Slot.field).elem n && n != b.keptFinalizer settings

/-- Whether the names leave reading attributes alone: neither the finalizer nor a slot is called like what
takes the place of reading. -/
def readable : Bool :=
  settings.finalizerName.val != Text.ofString "__getattribute__" &&
    !(b.slots.map Slot.field).elem (Text.ofString "_getattribute__")

/-- Whether a name is that of a setter that can be called. -/
def callable (n : Text) : Bool :=
  b.isSetter settings n && b.readable settings

/-- The value last written to a slot of a builder. -/
def valueOf (j : Journal) (id : Nat) (s : Slot) : Option Value :=
  Journal.last? j id (b.keptSlot s.field)

/-- The required fields to which nothing was written, in order. -/
def missing (j : Journal) (id : Nat) : List Text :=
  (b.required.filter fun s => (b.valueOf j id s).isNone).map Slot.field

/-- The last writes as a record: one entry for each field, in order, with `None` where nothing was
written. -/
def written (j : Journal) (id : Nat) : List (Text × Datum) :=
  b.slots.map fun s => (s.field, .value ((b.valueOf j id s).getD .none))

end BuilderShape

/-- The builder that is held under a name. -/
def builderOf? (held : List (Text × Datum)) (on : Text) : Option Nat :=
  match Cells.get? held on with
  | some (.builder id) => some id
  | _ => none

/-- The journal after setters were called on a builder. -/
def Journal.set (b : BuilderShape) (id : Nat) (j : Journal) (calls : List (Text × Value)) : Journal :=
  calls.foldl (fun j c => ⟨id, b.keptSlot c.1, c.2⟩ :: j) j

namespace Step

variable (b : BuilderShape) (settings : Settings)

/-- The journal after a step on a builder: setters and assignments to slots write a value, up to the
first call of a chain that is no setter, and the initializer starts the builder over. -/
def recordOn (j : Journal) (id : Nat) : Step → Journal
  | .call _ n args =>
    match args with
    | [v] => if b.isSetter settings n then ⟨id, b.keptSlot n, v⟩ :: j else j
    | [] => if n = Text.ofString "__init__" then j.filter (·.builder != id) else j
    | _ => j
  | .chain _ calls => Journal.set b id j (calls.takeWhile fun c => b.isSetter settings c.1)
  | .assign _ n v => if (b.slots.map fun s => b.keptSlot s.field).elem n then ⟨id, n, v⟩ :: j else j
  | _ => j

/-- The name under which the object of a step is held. -/
def on : Step → Text
  | .create on => on
  | .call on _ _ => on
  | .chain on _ => on
  | .assign on _ _ => on
  | .describe on => on

/-- The journal after a step, where some objects are held before it. -/
def record (held : List (Text × Datum)) (j : Journal) (st : Step) : Journal :=
  match builderOf? held st.on with
  | some id => st.recordOn b settings j id
  | none => j

/-- Whether a step invokes the finalizer without arguments: by a call of its name, or at the end of a
chain of setters. -/
def finalizes : Step → Bool
  | .call _ n args => n == b.keptFinalizer settings && args.isEmpty
  | .chain _ calls =>
    settings.finalizerName.val == b.keptFinalizer settings && calls.all fun c => b.isSetter settings c.1
  | _ => false

end Step

theorem Machine.SetUp.stored_eq {m : Machine} {b : BuilderShape} {settings : Settings} (setUp : m.SetUp b settings) :
    m.cls.stored = b.slots.map fun s => b.keptSlot s.field := by
  rw [setUp.stored, BuilderShape.attributes, List.map_map]
  rfl

/-- The cells of a builder follow a journal: each slot holds the value last written to it. -/
structure Follows (m : Machine) (j : Journal) (id : Nat) (h : Heap) : Prop where
  inside : id < h.length
  cells : ∀ a ∈ m.cls.stored, cellOf h id a = some (.ofSlot (Journal.last? j id a))

namespace Follows

variable {m : Machine} {j : Journal} {id : Nat} {h h' : Heap}

theorem keeps (follows : Follows m j id h) (kept : Keeps h h') : Follows m j id h' where
  inside := Nat.lt_of_lt_of_le follows.inside kept.length
  cells a stored := (kept.cells id follows.inside a).trans (follows.cells a stored)

/-- A value written to a cell of any builder goes into the journal. -/
theorem write (follows : Follows m j id h) {id' : Nat} (inside : id' < h.length) (a : Text) (v : Value) :
    Follows m (⟨id', a, v⟩ :: j) id (h.modify id' (Cells.put a (.value v))) where
  inside := by
    rw [List.length_modify]
    exact follows.inside
  cells a' stored := by
    rw [cellOf_modify inside, Journal.last?, List.find?_cons]
    by_cases here : id = id' ∧ a' = a
    · have found : (id' == id && a == a') = true := by
        rw [here.1, here.2, beq_self_eq_true, beq_self_eq_true, Bool.and_self]
      rw [if_pos here, found]
      rfl
    · have passed : (id' == id && a == a') = false := by
        rw [Bool.and_eq_false_iff, beq_eq_false_iff_ne, beq_eq_false_iff_ne]
        by_contra both
        rw [not_or, not_not, not_not] at both
        exact here ⟨both.1.symm, both.2.symm⟩
      rw [if_neg here, passed]
      exact follows.cells a' stored

/-- A builder that starts over has nothing written to it. -/
theorem restart (inside : id < h.length) (missing : ∀ a ∈ m.cls.stored, cellOf h id a = some .missing) :
    Follows m (j.filter (·.builder != id)) id h where
  inside := inside
  cells a stored := by
    have none : Journal.last? (j.filter (·.builder != id)) id a = none := by
      rw [Journal.last?, Option.map_eq_none_iff, List.find?_eq_none]
      intro w member same
      have other := (List.mem_filter.mp member).2
      exact bne_iff_ne.mp other (beq_iff_eq.mp (Bool.and_eq_true_iff.mp same).1)
    rw [missing a stored, none]
    rfl

/-- A builder does not notice that another one starts over. -/
theorem restart_other (follows : Follows m j id h) {id' : Nat} (apart : id ≠ id') (kept : KeepsOthers id' h h') :
    Follows m (j.filter (·.builder != id')) id h' where
  inside := Nat.lt_of_lt_of_le follows.inside kept.length
  cells a stored := by
    have same : Journal.last? (j.filter (·.builder != id')) id a = Journal.last? j id a := by
      rw [Journal.last?, List.find?_filter, Journal.last?]
      congr 2
      funext w
      by_cases mine : w.builder = id
      · by_cases there : w.attr = a
        · simp [mine, apart, there]
        · simp [mine, apart, there]
      · simp [mine]
    rw [kept.cells id follows.inside apart, same]
    exact follows.cells a stored

end Follows

end FluentRecords
