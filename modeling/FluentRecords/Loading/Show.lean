import FluentRecords.Loading.Attribute

/-!
The texts of things. Data classes and named tuples show their fields, other objects what their class says.
-/

namespace FluentRecords

namespace Loading

/-- The text of a value by itself. -/
def displayed : Value → Text
  | .str t => t
  | v => v.text

/-- The text of a thing in quotation marks, for things that show themselves. -/
def shownThing (w : World) : Thing → Option Text
  | .value v => some v.text
  | .cls id => (w.classes[id]?).map fun c => "<class '" ++ moduleName ++ "." ++ c.path ++ "'>"
  | .library .type n => some ("<class '" ++ n ++ "'>")
  | _ => none

/-- The text of an object that a class or one above it shows. -/
def fieldsShown (texts : List (Text × Text)) : Text :=
  "(" ++ Text.join ", " (texts.map fun (n, t) => n ++ "=" ++ t) ++ ")"

variable (call : Caller)

/-- The text of things in a tuple or a list. -/
def shownAll (shown : Thing → Load Text) : List Thing → Load (List Text)
  | [] => pure []
  | t :: rest => do
    let s ← shown t
    let more ← shownAll shown rest
    pure (s :: more)

/-- What a class, its own or one above it, says about showing its objects. -/
def showing (w : World) (id : Nat) : Option (ClassObject × Option Nat) :=
  (w.lineageClasses id).findSome? fun c =>
    match getThing? c.attrs "__repr__", c.style with
    | some (.function f), _ => some (c, some f)
    | _, .data o _ => if o.shown then some (c, none) else none
    | _, .tuple _ => some (c, none)
    | _, _ => none

/-- The fields that an object shows. -/
def shownFields (c : ClassObject) : List Text :=
  match c.style with
  | .data _ fields => (fields.filter fun f => f.shown && f.kept).map (·.name)
  | .tuple fields => fields.map (·.1)
  | .none => []

/-- The text that an object gives itself by a function. -/
def shownBy (t : Thing) (f : Nat) : Load Text := do
  match ← call (.bound t f) [] [] with
  | .value (.str s) => pure s
  | r => do
    let w ← get
    Load.raise "TypeError" ("__repr__ returned non-string (type " ++ w.kindName r ++ ")")

/-- The text of a thing, nested at most `depth` deep. -/
def shown : Nat → Thing → Load Text
  | 0, _ => Load.fail .tooDeep
  | depth + 1, t => do
    let w ← get
    match t with
    | .object id =>
      match w.objects[id]? with
      | none => Load.fail .unsupported
      | some (cls, attrs) =>
        match showing w cls with
        | some (_, some f) => shownBy call t f
        | some (c, none) => do
          let own := w.classes[cls]?
          let title := match c.style with
            | .tuple _ => w.className cls
            | _ => (own.map (·.path)).getD []
          let fields ← shownEach depth attrs (shownFields c)
          pure (title ++ fieldsShown fields)
        | none => pure ("<" ++ moduleName ++ "." ++ ((w.classes[cls]?).map (·.path)).getD []
            ++ " object>")
    | .many ts => do
      let texts ← shownAll (shown depth) ts
      pure ("(" ++ Text.join ", " texts ++ Text.when (ts.length == 1) "," ++ ")")
    | .mapping es => do
      let texts ← es.mapM fun (k, t) => do
        let s ← shown depth t
        pure (Text.quote k ++ ": " ++ s)
      pure ("\x7b" ++ Text.join ", " texts ++ "\x7d")
    | t => pure ((shownThing w t).getD "<unseen>")
where
  shownEach (depth : Nat) (attrs : List (Text × Thing)) :
      List Text → Load (List (Text × Text))
    | [] => pure []
    | n :: rest => do
      let s ← match getThing? attrs n with
        | some t => shown depth t
        | none => Load.fail .unsupported
      let more ← shownEach depth attrs rest
      pure ((n, s) :: more)

/-- How deep texts of things may be nested. -/
def showDepth : Nat :=
  100

/-- The text of a thing by itself. -/
def displayedThing : Thing → Load Text
  | .value v => pure (displayed v)
  | .fault _ m => pure m
  | t => shown call showDepth t

end Loading

end FluentRecords
