import FluentRecords.Proofs.Record.Expansion
import FluentRecords.Proofs.Text.Mangling
import Mathlib.Data.List.Nodup

/-!
Members and storage of a generated builder class. The class binds its description, its slots, its
initializer, one setter for each field and its finalizer; every slot is stored under an attribute of its
own. None of these names meet, and no slot is stored under the name of a member, exactly if the names of
the fields and of the finalizer keep clear of each other in six ways, which the checks of a declaration
do not all ask for.
-/

namespace FluentRecords

/-- The name that a statement of a class body binds. -/
def Stmt.boundName? (cls : Text) : Stmt → Option Text
  | .simple _ (.assign [.name n] _) => some (Text.mangle cls n)
  | .functionDef _ _ n _ _ _ _ => some (Text.mangle cls n)
  | _ => none

/-- The texts of a statement that declares slots. -/
def Stmt.slotTexts : Stmt → List Text
  | .simple _ (.assign [.name n] (.tuple attrs)) =>
    if n = Text.ofString "__slots__" then (BuilderClass.textsOf attrs).getD [] else []
  | _ => []

namespace ClassDecl

/-- The names of the members of a class; a text that opens the body is its description. -/
def memberNames (c : ClassDecl) : List Text :=
  match c.body with
  | .simple _ (.expression (.constant (.str _ _))) :: rest =>
    Text.ofString "__doc__" :: rest.filterMap (Stmt.boundName? c.name)
  | body => body.filterMap (Stmt.boundName? c.name)

/-- The attributes that the slots of a class are stored under. -/
def storedSlots (c : ClassDecl) : List Text :=
  (c.body.flatMap Stmt.slotTexts).map (Text.mangle c.name)

/-- No two members share a name, no two slots an attribute, and no slot is stored under the name of a
member. -/
structure Separate (c : ClassDecl) : Prop where
  members : c.memberNames.Nodup
  slots : c.storedSlots.Nodup
  apart : ∀ a ∈ c.storedSlots, a ∉ c.memberNames

end ClassDecl

/-- The members that every builder class binds under a name that is not configured. -/
def fixedMembers : List Text :=
  ["__doc__", "__slots__", "__init__"]

/-- The names of fields and of a finalizer keep clear of each other in a builder class. -/
structure ClearNames (builder finalizer : Text) (names : List Text) : Prop where
  finalizer_fixed : finalizer ∉ fixedMembers
  finalizer_setter : Text.mangle builder finalizer ∉ names
  slot_fixed : ∀ n ∈ names, 95 :: n ∉ fixedMembers
  slot_slot : ∀ n ∈ names, Text.IsMangled builder (95 :: n) → Text.stem builder ++ 95 :: n ∉ names
  slot_setter : ∀ n ∈ names, Text.IsMangled builder (95 :: n) →
    95 :: Text.stem builder ++ 95 :: n ∉ names
  slot_finalizer : ∀ n ∈ names, Text.mangle builder (95 :: n) ≠ Text.mangle builder finalizer

theorem fixedMembers_special {n : Text} (member : n ∈ fixedMembers) :
    Text.startsWith "__" n = true ∧ Text.isPrivate n = false := by
  simp only [fixedMembers, List.mem_cons, List.not_mem_nil, or_false] at member
  rcases member with rfl | rfl | rfl <;> decide

/-- A configured name is kept under that of a fixed member only if it is that name. -/
theorem mangle_mem_fixedMembers (cls n : Text) : Text.mangle cls n ∈ fixedMembers ↔ n ∈ fixedMembers := by
  constructor
  · intro member
    obtain ⟨starts, plain⟩ := fixedMembers_special member
    rwa [(Text.mangle_eq_special_iff starts plain).mp rfl]
  · intro member
    rwa [Text.mangle_of_not_private (fixedMembers_special member).2]

theorem BuilderClass.textsOf_map_str (ts : List Text) :
    BuilderClass.textsOf (ts.map Emission.str) = some ts := by
  induction ts with
  | nil => rfl
  | cons t rest ih => exact congrArg (Option.map (t :: ·)) ih

theorem Field.slot_field (f : Field) : f.slot.field = f.name := by
  unfold Field.slot
  split <;> rfl

theorem BuilderShape.ofRecord_fields (r : Record) (builder : Text) :
    (BuilderShape.ofRecord r builder).slots.map Slot.field = r.names := by
  simp only [BuilderShape.ofRecord, List.map_map, Record.names]
  exact List.map_congr_left fun f _ => Field.slot_field f

theorem BuilderShape.ofRecord_attributes (r : Record) (builder : Text) :
    (BuilderShape.ofRecord r builder).attributes = r.names.map (95 :: ·) := by
  rw [← BuilderShape.ofRecord_fields r builder, BuilderShape.attributes, List.map_map]
  rfl

section Emitted

variable (b : BuilderShape) (settings : Settings)

theorem Emission.builderClass_body :
    (Emission.builderClass b settings).body =
      Emission.line (.expression (Emission.str (Emission.docstring b.record)))
        :: Emission.slotList b :: Emission.init b
        :: (b.slots.map (Emission.setter b.builder) ++ [Emission.finalizer b settings]) :=
  rfl

theorem Emission.boundName?_slotList (cls : Text) :
    (Emission.slotList b).boundName? cls = some (Text.ofString "__slots__") :=
  congrArg some (Text.mangle_of_not_private (by decide))

theorem Emission.boundName?_init (cls : Text) :
    (Emission.init b).boundName? cls = some (Text.ofString "__init__") :=
  congrArg some (Text.mangle_of_not_private (by decide))

/-- The setters bind the names of their fields, where these are visible. -/
theorem Emission.boundNames_setters (cls : Text) {ss : List Slot}
    (visible : ∀ s ∈ ss, Text.startsWith "__" s.field = false) :
    (ss.map (Emission.setter cls)).filterMap (Stmt.boundName? cls) = ss.map Slot.field := by
  induction ss with
  | nil => rfl
  | cons s rest ih =>
    have plain := Text.isPrivate_of_not_startsWith (visible s List.mem_cons_self)
    have kept : (Emission.setter cls s).boundName? cls = some s.field :=
      congrArg some (Text.mangle_of_not_private plain)
    rw [List.map_cons, List.filterMap_cons_some kept, List.map_cons,
      ih fun s member => visible s (List.mem_cons_of_mem _ member)]

theorem Emission.memberNames_builderClass
    (visible : ∀ n ∈ b.slots.map Slot.field, Text.startsWith "__" n = false) :
    (Emission.builderClass b settings).memberNames =
      fixedMembers ++ b.slots.map Slot.field ++ [Text.mangle b.builder settings.finalizerName.val] := by
  have setters := Emission.boundNames_setters b.builder fun s member =>
    visible s.field (List.mem_map_of_mem member)
  have described : (Emission.builderClass b settings).memberNames = Text.ofString "__doc__" ::
      (Emission.slotList b :: Emission.init b
        :: (b.slots.map (Emission.setter b.builder) ++ [Emission.finalizer b settings])).filterMap
          (Stmt.boundName? b.builder) := rfl
  rw [described, List.filterMap_cons_some (Emission.boundName?_slotList b b.builder),
    List.filterMap_cons_some (Emission.boundName?_init b b.builder), List.filterMap_append, setters]
  rfl

theorem Emission.slotTexts_setters (cls : Text) (ss : List Slot) :
    (ss.map (Emission.setter cls)).flatMap Stmt.slotTexts = [] := by
  induction ss with
  | nil => rfl
  | cons s rest ih => exact ih

theorem Emission.storedSlots_builderClass :
    (Emission.builderClass b settings).storedSlots = b.attributes.map (Text.mangle b.builder) := by
  have declared : (Emission.slotList b).slotTexts = b.attributes := by
    simp only [Emission.slotList, Emission.line, Stmt.slotTexts, BuilderClass.textsOf_map_str, if_true,
      Option.getD_some]
  have all : (Emission.builderClass b settings).body.flatMap Stmt.slotTexts = b.attributes := by
    rw [Emission.builderClass_body, List.flatMap_cons, List.flatMap_cons, List.flatMap_cons,
      List.flatMap_append, Emission.slotTexts_setters, declared]
    simp [Emission.line, Emission.str, Emission.init, Emission.finalizer, Emission.function, Stmt.slotTexts]
  rw [ClassDecl.storedSlots, all]
  rfl

end Emitted

theorem members_nodup_iff (builder finalizer : Text) {names : List Text} (distinct : names.Nodup)
    (visible : ∀ n ∈ names, Text.startsWith "__" n = false) :
    (fixedMembers ++ names ++ [Text.mangle builder finalizer]).Nodup ↔
      finalizer ∉ fixedMembers ∧ Text.mangle builder finalizer ∉ names := by
  have fixed : fixedMembers.Nodup := by decide
  have hidden : ∀ n ∈ fixedMembers, Text.startsWith "__" n = true := by decide
  have apart : fixedMembers.Disjoint names := fun n member named =>
    Bool.false_ne_true ((visible n named).symm.trans (hidden n member))
  have both : (fixedMembers ++ names).Nodup := List.nodup_append'.mpr ⟨fixed, distinct, apart⟩
  rw [← mangle_mem_fixedMembers builder finalizer, ← not_or, ← List.mem_append]
  constructor
  · intro nodup member
    exact (List.nodup_append'.mp nodup).2.2 member (List.mem_singleton_self _)
  · intro fresh
    refine List.nodup_append'.mpr ⟨both, List.nodup_singleton _, fun n member last => fresh ?_⟩
    rwa [← List.mem_singleton.mp last]

theorem slots_nodup_iff (builder : Text) {names : List Text} (distinct : names.Nodup) :
    ((names.map (95 :: ·)).map (Text.mangle builder)).Nodup ↔
      ∀ n ∈ names, Text.IsMangled builder (95 :: n) → Text.stem builder ++ 95 :: n ∉ names := by
  rw [List.map_map, List.nodup_map_iff_inj_on distinct]
  constructor
  · intro injective n member mangled shared
    have same := injective n member _ shared
      (Text.mangle_slot_eq_iff.mpr (Or.inr (Or.inl ⟨mangled, rfl⟩)))
    have longer := congrArg List.length same
    simp only [List.length_append, List.length_cons] at longer
    omega
  · intro clear n atN k atK same
    rcases Text.mangle_slot_eq_iff.mp same with equal | ⟨mangled, rfl⟩ | ⟨mangled, rfl⟩
    · exact equal
    · exact absurd atK (clear n atN mangled)
    · exact absurd atN (clear k atK mangled)

/-- Where no name is another one with an underscore in front, only a private slot can be stored under
the name of a setter. -/
theorem slot_mem_names_iff {builder n : Text} {names : List Text}
    (unpaired : ∀ n ∈ names, 95 :: n ∉ names) (member : n ∈ names) :
    Text.mangle builder (95 :: n) ∈ names ↔
      Text.IsMangled builder (95 :: n) ∧ 95 :: Text.stem builder ++ 95 :: n ∈ names := by
  by_cases mangled : Text.IsMangled builder (95 :: n)
  · rw [Text.mangle_of_isMangled mangled]
    exact ⟨fun inside => ⟨mangled, inside⟩, And.right⟩
  · rw [Text.mangle_of_not_isMangled mangled]
    exact ⟨fun inside => absurd inside (unpaired n member), fun both => absurd both.1 mangled⟩

/-- In the builder class of an expansion, members and storage keep apart exactly if the names of the
fields and of the finalizer are clear of each other. -/
theorem Expansion.separate_iff_clearNames {settings : Settings} {d : Declaration} {e : Expansion}
    {g : Generated} (run : Expansion.expand settings d = .ok e) (generated : e.generated = some g) :
    g.builder.Separate ↔ ClearNames g.builder.name settings.finalizerName.val g.record.names := by
  obtain ⟨made, checked⟩ := Expansion.expand_generated run generated
  have distinct : g.record.names.Nodup := g.record.distinct
  generalize g.record = r at made checked distinct
  subst made
  let b := BuilderShape.ofRecord r (settings.builderName r.name)
  have fields : b.slots.map Slot.field = r.names := BuilderShape.ofRecord_fields r _
  have members := Emission.memberNames_builderClass b settings (by rw [fields]; exact checked.visible)
  have slots := Emission.storedSlots_builderClass b settings
  rw [fields] at members
  rw [show b.attributes = r.names.map (95 :: ·) from BuilderShape.ofRecord_attributes r _] at slots
  have atMembers := members_nodup_iff b.builder settings.finalizerName.val distinct checked.visible
  have atSlots := slots_nodup_iff b.builder distinct
  rw [← members] at atMembers
  rw [← slots] at atSlots
  have stored : ∀ a, a ∈ (Emission.builderClass b settings).storedSlots ↔
      ∃ n ∈ r.names, Text.mangle b.builder (95 :: n) = a := by
    intro a
    rw [slots, List.map_map]
    exact List.mem_map
  have meets : ∀ n ∈ r.names,
      (Text.mangle b.builder (95 :: n) ∈ (Emission.builderClass b settings).memberNames ↔
        95 :: n ∈ fixedMembers ∨ (Text.IsMangled b.builder (95 :: n) ∧
          95 :: Text.stem b.builder ++ 95 :: n ∈ r.names) ∨
          Text.mangle b.builder (95 :: n) = Text.mangle b.builder settings.finalizerName.val) := by
    intro n member
    rw [members, List.mem_append, List.mem_append, List.mem_singleton, mangle_mem_fixedMembers,
      slot_mem_names_iff checked.unpaired member, or_assoc]
  constructor
  · intro separate
    have apart : ∀ n ∈ r.names,
        Text.mangle b.builder (95 :: n) ∉ (Emission.builderClass b settings).memberNames :=
      fun n member => separate.apart _ ((stored _).mpr ⟨n, member, rfl⟩)
    exact {
      finalizer_fixed := (atMembers.mp separate.members).1
      finalizer_setter := (atMembers.mp separate.members).2
      slot_fixed := fun n member fixed => apart n member ((meets n member).mpr (Or.inl fixed))
      slot_slot := atSlots.mp separate.slots
      slot_setter := fun n member mangled named =>
        apart n member ((meets n member).mpr (Or.inr (Or.inl ⟨mangled, named⟩)))
      slot_finalizer := fun n member same =>
        apart n member ((meets n member).mpr (Or.inr (Or.inr same))) }
  · intro clear
    refine ⟨atMembers.mpr ⟨clear.finalizer_fixed, clear.finalizer_setter⟩, atSlots.mpr clear.slot_slot, ?_⟩
    intro a inside named
    obtain ⟨n, member, rfl⟩ := (stored a).mp inside
    rcases (meets n member).mp named with fixed | ⟨mangled, setter⟩ | same
    · exact clear.slot_fixed n member fixed
    · exact clear.slot_setter n member mangled setter
    · exact clear.slot_finalizer n member same

/-- The declaration of a class whose fields are all of type `int`. -/
def Declaration.ofFields (name : Text) (fields : List Text) : Declaration :=
  .stmt (.classDef .start name [] [] [] (fields.map fun n =>
    .simple .start (.annotated (.name n) .start true (.name "int") none)))

/-- The default settings with another name for the finalizer. -/
def Settings.finalizedBy (n : LegalName) : Settings :=
  { Settings.default with finalizerName := n }

/-- A private slot is stored under the stem of its class and stays apart from a field of a similar name. -/
theorem separate_private_slot :
    ∃ e g, Expansion.expand .default (.ofFields "P" ["_x", "PBuilder_x"]) = .ok e ∧
      e.generated = some g ∧ g.builder.Separate := by
  have run : Expansion.expand .default (.ofFields "P" ["_x", "PBuilder_x"]) = .ok ⟨_, some _, _⟩ := rfl
  have clear : ClearNames "PBuilder" "build" ["_x", "PBuilder_x"] :=
    ⟨by decide, by decide, by decide, by decide, by decide, by decide⟩
  exact ⟨_, _, run, rfl, (Expansion.separate_iff_clearNames run rfl).mpr clear⟩

/-- A finalizer may be called like the slot of a field, and two fields may share a slot: then members and
storage clash although the expansion completes. -/
theorem not_separate_slot_finalizer_nor_shared_slot :
    (∃ e g, Expansion.expand (.finalizedBy ⟨"_x", by decide⟩)
        (.ofFields "P" ["x"]) = .ok e ∧ e.generated = some g ∧ ¬ g.builder.Separate) ∧
      ∃ e g, Expansion.expand .default (.ofFields "P" ["_x", "PBuilder__x"]) = .ok e ∧
        e.generated = some g ∧ ¬ g.builder.Separate := by
  refine ⟨⟨_, _, rfl, rfl, fun separate => ?_⟩, _, _, rfl, rfl, fun separate => ?_⟩
  · exact separate.apart (Text.ofString "_x") (by decide) (by decide)
  · exact absurd separate.slots (by decide)

end FluentRecords
