import FluentRecords.Loading.Library

/-!
How classes come by their fields: data classes collect annotated names, their own after inherited ones,
and named tuples take theirs in order. Both insist that fields with a default come last.
-/

namespace FluentRecords

namespace Signature

/-- The names a signature binds by position. -/
def positionalNames (s : Signature) : List Parameter :=
  s.positional ++ s.regular

/-- Binds keyword arguments, after what is bound already; those without a parameter are collected. -/
def bindKeywords (s : Signature) (bound extra : List (Text × Thing)) :
    List (Text × Thing) → Except EvalFault (List (Text × Thing) × List (Text × Thing))
  | [] => .ok (bound, extra)
  | (k, t) :: rest =>
    if (s.regular ++ s.keyword).any (·.name == k) then
      if bound.any (·.1 == k) then .error (.repeatedArgument s.label k)
      else bindKeywords s (bound ++ [(k, t)]) extra rest
    else if s.keywordRest.isSome then bindKeywords s bound (extra ++ [(k, t)]) rest
    else .error (.unexpectedKeyword s.label k)

/-- The parameters without an argument and without a default. -/
def missing (bound : List (Text × Thing)) (ps : List Parameter) : List Text :=
  (ps.filter fun p => p.dflt.isNone && !bound.any (·.1 == p.name)).map (·.name)

/-- The names a call binds. -/
def bind (s : Signature) (args : List Thing) (keywords : List (Text × Thing)) :
    Except EvalFault (List (Text × Thing)) := do
  let ps := s.positionalNames
  let (bound, extra) ← s.bindKeywords ((ps.map (·.name)).zip args) [] keywords
  let surplus := args.drop ps.length
  if s.rest.isNone && !surplus.isEmpty then
    .error (.tooManyArguments s.label (ps.filter (·.dflt.isNone)).length ps.length args.length)
  let absent := missing bound ps
  if !absent.isEmpty then .error (.missingArguments s.label false absent)
  let absent := missing bound s.keyword
  if !absent.isEmpty then .error (.missingArguments s.label true absent)
  let defaults := (ps ++ s.keyword).filterMap fun p =>
    if bound.any (·.1 == p.name) then none else p.dflt.map fun d => (p.name, d)
  let rest := (s.rest.map fun n => (n, Thing.ofTuple surplus)).toList
  let keywordRest := (s.keywordRest.map fun n => (n, Thing.ofEntries extra)).toList
  .ok (bound ++ defaults ++ rest ++ keywordRest)

end Signature

namespace DataField

/-- The parameter of a field. -/
def parameter (f : DataField) : Parameter :=
  ⟨f.name, f.dflt⟩

/-- Puts a field in the place of one of its name, or at the end. -/
def put (f : DataField) : List DataField → List DataField
  | [] => [f]
  | g :: rest => if g.name = f.name then f :: rest else g :: put f rest

/-- What the initializer of a data class takes. -/
def signature (path : Text) (fields : List DataField) : Signature where
  label := path ++ ".__init__"
  positional := [⟨"self", none⟩]
  regular := (fields.filter fun f => f.initializer && !f.byKeyword).map parameter
  rest := none
  keyword := (fields.filter fun f => f.initializer && f.byKeyword).map parameter
  keywordRest := none

end DataField

namespace DataClass

/-- Whether a default could be changed by one object for all others. -/
def isShared : Thing → Bool
  | .value (.list _) => true
  | .value (.dict _) => true
  | .value (.set _) => true
  | .mapping _ => true
  | _ => false

/-- The marker that the text of an annotation spells, by the names of the module. -/
def markerOfExpr (globals : List (Text × Thing)) (e : Expr) : Marker :=
  let target := match e with
    | .subscript t _ => t
    | e => e
  match target with
  | .name n => ((getThing? globals n).map Thing.marker).getD .plain
  | .member (.name m) n =>
    match getThing? globals m with
    | some (.library .module module) => (Library.member module n).marker
    | _ => .plain
  | _ => .plain

/-- The field of an annotated name with its class attribute; class variables are no fields. -/
def fieldOf (d : Declared) (dflt : Option Thing) (byKeyword : Bool) :
    Except LoadFault (Option DataField) :=
  if d.marker = .classVar then .ok none
  else
    let kept := d.marker != .initVar
    match dflt with
    | some (.fieldWith dflt initializer shown keyword) =>
      .ok (some ⟨d.name, dflt, initializer, shown, keyword.getD byKeyword, kept⟩)
    | some t =>
      if isShared t && kept then
        let kind := match t with
          | .value v => v.kindName
          | _ => "dict"
        .error (.eval (.raised "ValueError" ("mutable default <class '" ++ kind ++ "'> for field "
          ++ d.name ++ " is not allowed: use default_factory")))
      else .ok (some ⟨d.name, some t, true, true, byKeyword, kept⟩)
    | none => .ok (some ⟨d.name, none, true, true, byKeyword, kept⟩)

/-- The fields of annotated names. After the marker for it, fields are given by keyword only. -/
def ownFields (attrs : List (Text × Thing)) (byKeyword : Bool) :
    List Declared → Except LoadFault (List DataField)
  | [] => .ok []
  | d :: rest =>
    if d.marker = .keywordOnly then ownFields attrs true rest
    else do
      let f ← fieldOf d (getThing? attrs d.name) byKeyword
      let more ← ownFields attrs byKeyword rest
      .ok (f.toList ++ more)

/-- The first field without a default after one that has one. -/
def misplaced? (seen : Bool) : List DataField → Option DataField
  | [] => none
  | f :: rest =>
    if f.dflt.isSome then misplaced? true rest else if seen then some f else misplaced? seen rest

/-- The fields that a class inherits. -/
def inherited (w : World) (id : Nat) : List DataField :=
  ((w.lineageClasses id).drop 1).reverse.foldl (fun fields c =>
    match c.style with
    | .data _ own => own.foldl (fun fields f => f.put fields) fields
    | _ => fields) []

/-- Whether a class that it inherits from is a data class with the given property. -/
def anyBase (w : World) (id : Nat) (p : DataOptions → Bool) : Bool :=
  ((w.lineageClasses id).drop 1).any fun c =>
    match c.style with
    | .data o _ => p o
    | _ => false

/-- A field that is not kept leaves no class attribute; one that is leaves its default. -/
def settle (attrs : List (Text × Thing)) : List (Text × Thing) :=
  attrs.filterMap fun (n, t) =>
    match t with
    | .fieldWith dflt _ _ _ => dflt.map fun d => (n, d)
    | t => some (n, t)

/-- Makes a class a data class. -/
def apply (o : DataOptions) (id : Nat) : Load Thing := do
  let w ← get
  let some c := w.classes[id]? | Load.fail .unsupported
  let own ← match ownFields c.attrs o.byKeyword c.declared with
    | .ok own => pure own
    | .error f => throw f
  let fields := own.foldl (fun fields f => f.put fields) (inherited w id)
  if anyBase w id (·.frozen) && !o.frozen then
    Load.raise "TypeError" "cannot inherit non-frozen dataclass from a frozen one"
  if anyBase w id (fun _ => true) && !anyBase w id (·.frozen) && o.frozen then
    Load.raise "TypeError" "cannot inherit frozen dataclass from a non-frozen one"
  let ordered := fields.filter fun f => f.initializer && !f.byKeyword
  match if o.initializer then misplaced? false ordered else none with
  | some f =>
    Load.raise "TypeError" ("non-default argument " ++ Text.quote f.name ++ " follows default argument")
  | none =>
    set (w.modifyClass id fun c => { c with attrs := settle c.attrs, style := .data o fields })
    pure (.cls id)

end DataClass

namespace NamedTuple

/-- Checks the order of defaults, after the names that have one. -/
def checkOrder (attrs : List (Text × Thing)) (before : List Text) : List Declared → Load Unit
  | [] => pure ()
  | d :: rest =>
    if (getThing? attrs d.name).isSome then checkOrder attrs (before ++ [d.name]) rest
    else if before.isEmpty then checkOrder attrs before rest
    else
      Load.raise "TypeError" ("Non-default namedtuple field " ++ d.name
        ++ " cannot follow default field" ++ Text.when (before.length != 1) "s" ++ " "
        ++ Text.join ", " before)

/-- Checks that every annotation is a type. -/
def checkTypes (ds : List Declared) : Load Unit :=
  ds.forM fun d =>
    if d.marker != .classVar then pure ()
    else match d.type, d.type.text with
      | .subscript _ _, .ok t =>
        Load.raise "TypeError" ("typing." ++ t ++ " is not valid as type argument")
      | _, .ok t => Load.raise "TypeError" ("Plain typing." ++ t ++ " is not valid as type argument")
      | _, .error _ => pure ()

/-- Checks the names of fields. -/
def checkNames (ds : List Declared) : Load Unit :=
  ds.forM fun d =>
    if d.name.head? == some 95 then
      Load.raise "ValueError"
        ("Field names cannot start with an underscore: " ++ Text.quote d.name)
    else pure ()

/-- The fields of a named tuple. -/
def fields (attrs : List (Text × Thing)) (ds : List Declared) :
    Load (List (Text × Option Thing)) := do
  checkOrder attrs [] ds
  checkTypes ds
  checkNames ds
  pure (ds.map fun d => (d.name, getThing? attrs d.name))

/-- What the constructor of a named tuple takes. -/
def signature (name : Text) (fields : List (Text × Option Thing)) : Signature where
  label := name ++ ".__new__"
  positional := [⟨"_cls", none⟩]
  regular := fields.map fun (n, d) => ⟨n, d⟩
  rest := none
  keyword := []
  keywordRest := none

end NamedTuple

/-- Whether a base makes a class a named tuple. -/
def Thing.isNamedTuple : Thing → Bool
  | .tool .namedTuple => true
  | _ => false

/-- Makes a class. -/
def makeClass (c : ClassObject) : Load Thing := do
  let style ← if c.bases.any Thing.isNamedTuple then
      FieldStyle.tuple <$> NamedTuple.fields c.attrs c.declared
    else pure .none
  let id := (← get).classes.length
  modify (·.addClass { c with style := style })
  pure (.cls id)

end FluentRecords
