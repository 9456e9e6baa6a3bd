import FluentRecords.Expansion
import FluentRecords.Proofs.Builder.Storage
import FluentRecords.Proofs.Outcome

/-!
Declarations that differ in their layout. Where a class is read from its own lines again, its statements stand
at other places, and in texts that spread over several lines blank lines may have lost their blanks. What is
generated for a class depends on neither: its fields, their slots and their kinds are the same.
-/

namespace FluentRecords

/-- A constant without the contents of a text or of bytes. -/
def Constant.bare : Constant → Constant
  | .str _ marked => .str [] marked
  | .bytes _ => .bytes []
  | c => c

mutual

/-- An expression without the places in it and the contents of texts. -/
def Expr.bare : Expr → Expr
  | .name n => .name n
  | .constant c => .constant c.bare
  | .formatted parts => .formatted (bareParts parts)
  | .tuple es => .tuple (bareAll es)
  | .list es => .list (bareAll es)
  | .set es => .set (bareAll es)
  | .dict items => .dict (bareItems items)
  | .member e a => .member e.bare a
  | .subscript e i => .subscript e.bare i.bare
  | .slice lower upper step => .slice (bareOption lower) (bareOption upper) (bareOption step)
  | .starred e => .starred e.bare
  | .call f args keywords => .call f.bare (bareAll args) (bareKeywords keywords)
  | .unary op e => .unary op e.bare
  | .binary op l r => .binary op l.bare r.bare
  | .bool op es => .bool op (bareAll es)
  | .compare l rest => .compare l.bare (bareComparisons rest)
  | .conditional test body orelse => .conditional test.bare body.bare orelse.bare
  | .lambda ps e => .lambda ps.bare e.bare
  | .named target e => .named target.bare e.bare
  | .await e => .await e.bare
  | .yield e => .yield (bareOption e)
  | .yieldFrom e => .yieldFrom e.bare
  | .listComp e clauses => .listComp e.bare (bareClauses clauses)
  | .setComp e clauses => .setComp e.bare (bareClauses clauses)
  | .generator e clauses => .generator e.bare (bareClauses clauses)
  | .dictComp k v clauses => .dictComp k.bare v.bare (bareClauses clauses)

def bareOption : Option Expr → Option Expr
  | none => none
  | some e => some e.bare

def bareAll : List Expr → List Expr
  | [] => []
  | e :: rest => e.bare :: bareAll rest

def bareParts : List FormatPart → List FormatPart
  | [] => []
  | .literal _ :: rest => .literal [] :: bareParts rest
  | .field e conversion :: rest => .field e.bare conversion :: bareParts rest
  | .fieldWith e conversion format :: rest => .fieldWith e.bare conversion (bareParts format) :: bareParts rest

def bareItems : List DictItem → List DictItem
  | [] => []
  | .entry k v :: rest => .entry k.bare v.bare :: bareItems rest
  | .unpack e :: rest => .unpack e.bare :: bareItems rest

def bareKeywords : List Keyword → List Keyword
  | [] => []
  | .mk n _ e :: rest => .mk n .start e.bare :: bareKeywords rest

def bareComparisons : List Comparison → List Comparison
  | [] => []
  | .mk op e :: rest => .mk op e.bare :: bareComparisons rest

def bareClauses : List Clause → List Clause
  | [] => []
  | .mk isAsync target iter conditions :: rest =>
    .mk isAsync target.bare iter.bare (bareAll conditions) :: bareClauses rest

def bareParam : Param → Param
  | .mk n type dflt => .mk n (bareOption type) (bareOption dflt)

def bareParams : List Param → List Param
  | [] => []
  | p :: rest => bareParam p :: bareParams rest

def bareRest : Option Param → Option Param
  | none => none
  | some p => some (bareParam p)

def Params.bare : Params → Params
  | .mk positional regular rest keyword keywordRest =>
    .mk (bareParams positional) (bareParams regular) (bareRest rest) (bareParams keyword) (bareRest keywordRest)

end

namespace Expr

theorem lastName?_bare (e : Expr) : e.bare.lastName? = e.lastName? := by
  cases e <;> rfl

/-- Whether an annotation is a marker does not depend on the layout. -/
theorem isMarker_bare (e : Expr) : e.bare.isMarker = e.isMarker := by
  cases e with
  | subscript value index =>
    simp only [bare, isMarker, lastName?_bare]
  | _ => rfl

theorem unwrap?_bare (wrapper : Text) (e : Expr) : (e.bare.unwrap? wrapper).isSome = (e.unwrap? wrapper).isSome := by
  cases e with
  | subscript value index =>
    cases value with
    | name n =>
      by_cases same : n = wrapper
      · cases index <;> simp [bare, unwrap?, same]
      · simp [bare, unwrap?, same]
    | _ => rfl
  | _ => rfl

/-- The kind of a field does not depend on the layout of its type. -/
theorem classify_kind_bare (wrapper : Text) (e : Expr) : (e.bare.classify wrapper).kind = (e.classify wrapper).kind := by
  have same := unwrap?_bare wrapper e
  unfold classify
  cases found : e.unwrap? wrapper with
  | none =>
    rw [found, Option.isSome_none, Option.isSome_eq_false_iff, Option.isNone_iff_eq_none] at same
    rw [same]
  | some inner =>
    rw [found] at same
    obtain ⟨inner', found'⟩ := Option.isSome_iff_exists.mp same
    rw [found']

end Expr

/-- The name and the type that a target and an annotation declare, if it is no marker. -/
def FieldDecl.entryOf? : Expr → Expr → Option (Text × Expr)
  | .name n, type => if type.isMarker then none else some (n, type)
  | _, _ => none

/-- The name and the type that an annotated assignment declares. -/
def FieldDecl.entry? (d : FieldDecl) : Option (Text × Expr) :=
  entryOf? d.target d.type

theorem FieldDecl.entryOf?_bare (target type : Expr) :
    entryOf? target.bare type.bare = (entryOf? target type).map fun e => (e.1, e.2.bare) := by
  cases target with
  | name n =>
    rw [Expr.bare, entryOf?, entryOf?, Expr.isMarker_bare]
    cases type.isMarker <;> rfl
  | _ => rfl

/-- What annotated assignments declare, without its layout, depends on them without theirs. -/
theorem FieldDecl.map_bare_entries (ds : List FieldDecl) :
    (ds.filterMap entry?).map (fun e => (e.1, e.2.bare)) =
      (ds.map fun d => (d.target.bare, d.type.bare)).filterMap fun d => entryOf? d.1 d.2 := by
  rw [List.map_filterMap, List.filterMap_map]
  exact List.filterMap_congr fun d _ => (entryOf?_bare d.target d.type).symm

/-- An annotated assignment that declares a field declares its name and its type. -/
theorem FieldDecl.entry?_eq (d : FieldDecl) : d.entry? = d.placed?.map fun p => (p.field.name, p.field.declared) := by
  unfold entry? entryOf? placed? name?
  cases d.target with
  | name n => by_cases marked : d.type.Marks <;> simp [marked, Expr.isMarker_iff]
  | _ => simp

/-- Two declarations of a class whose annotated assignments differ in their layout at most. -/
structure ClassDecl.Alike (c c' : ClassDecl) : Prop where
  name : c.name = c'.name
  fields : (c.body.filterMap Stmt.fieldDecl?).map (fun d => (d.target.bare, d.type.bare)) =
    (c'.body.filterMap Stmt.fieldDecl?).map fun d => (d.target.bare, d.type.bare)

namespace ClassDecl

variable {c c' : ClassDecl} {reserved : List Text} {r r' : Record}

theorem record_eq_ok (made : c.record reserved = .ok r) : r.name = c.name ∧
    r.fields.map (fun f => (f.name, f.declared)) = (c.body.filterMap Stmt.fieldDecl?).filterMap FieldDecl.entry? := by
  obtain ⟨shaped, describes⟩ := record_eq_ok_iff.mp made
  refine ⟨describes.name, ?_⟩
  rw [(FieldDecl.forall₂_gives shaped.named).mp describes.fields, List.map_map, List.map_filterMap]
  exact List.filterMap_congr fun d _ => d.entry?_eq.symm

end ClassDecl

/-- The slots of what is generated: for each its field, its attribute and its kind. -/
def Generated.slots (g : Generated) : List (Text × Text × FieldKind) :=
  (BuilderShape.ofRecord g.record g.builder.name).slots.map fun s => (s.field, s.attribute, s.kind)

/-- The slots of a record follow from the names of its fields and from their types without their layout. -/
theorem Generated.slots_ofRecord (r : Record) (settings : Settings) :
    (Generated.ofRecord (r.classify settings.wrapperName.val) settings).slots =
      ((r.fields.map fun f => (f.name, f.declared)).map fun f => (f.1, f.2.bare)).map fun f =>
        (f.1, 95 :: f.1, (f.2.classify settings.wrapperName.val).kind) := by
  simp only [slots, ofRecord, BuilderShape.ofRecord, Record.classify, Record.mapFields, List.map_map]
  refine List.map_congr_left fun f _ => ?_
  simp only [Function.comp_apply, Expr.classify_kind_bare]
  rfl

/-- What is generated for two declarations that differ in their layout has the same slots. -/
theorem ClassDecl.Alike.slots_eq {c c' : ClassDecl} {settings : Settings} {r r' : Record} (alike : c.Alike c')
    (made : c.record settings.reservedNames = .ok r) (made' : c'.record settings.reservedNames = .ok r') :
    (Generated.ofRecord (r.classify settings.wrapperName.val) settings).slots =
      (Generated.ofRecord (r'.classify settings.wrapperName.val) settings).slots := by
  rw [Generated.slots_ofRecord, Generated.slots_ofRecord, (ClassDecl.record_eq_ok made).2,
    (ClassDecl.record_eq_ok made').2, FieldDecl.map_bare_entries, FieldDecl.map_bare_entries, alike.fields]

end FluentRecords
