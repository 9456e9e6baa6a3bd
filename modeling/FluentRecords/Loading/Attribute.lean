import FluentRecords.Loading.Classes
import FluentRecords.Loading.Derivation

/-!
Names and attributes of a running module: what they stand for, and how they are set.
-/

namespace FluentRecords

namespace Loading

/-- A way of calling. -/
abbrev Caller := Thing → List Thing → List (Text × Thing) → Load Thing

/-- What a name stands for. -/
def lookup (sc : Scope) (n : Text) : Load Thing := do
  let w ← get
  let seen := if sc.globals.elem n then [0] else sc.frame :: sc.outer ++ [0]
  let frames := seen.filterMap (w.frames[·]?)
  match (frames.findSome? fun f => getThing? f.names n).or (Library.builtin? n) with
  | some t => pure t
  | none => Load.fail (.undefined n)

/-- Binds a name. -/
def define (sc : Scope) (n : Text) (t : Thing) : Load Unit :=
  modify (·.bind (sc.home n) n t)

/-- A new frame. -/
def newFrame (names : List (Text × Thing)) : Load Nat := do
  let w ← get
  set { w with frames := w.frames ++ [NameFrame.mk names []] }
  pure w.frames.length

/-- The fault of an attribute that is not there. -/
def noAttribute {α : Type} (t : Thing) (a : Text) : Load α := do
  Load.fail (.noAttribute ((← get).owner t) a)

/-- The attributes of a class that do not come from its body. -/
def generalAttr? (c : ClassObject) (a : Text) : Option Thing :=
  if a = Text.ofString "__name__" then some (.str c.name)
  else if a = Text.ofString "__qualname__" then some (.str c.path)
  else if a = Text.ofString "__module__" then some (.str moduleName)
  else if Machine.objectNames.elem a || a = Text.ofString "__annotations__"
      || a = Text.ofString "__dict__" || a = Text.ofString "__class__" then some .unseen
  else none

/-- An attribute of a class. -/
def classAttribute (id : Nat) (a : Text) : Load Thing := do
  let w ← get
  match w.classAttr? id a with
  | some t => pure t
  | none =>
    match (w.classes[id]?).bind fun c => generalAttr? c a with
    | some t => pure t
    | none => if w.isForeign id then pure .unseen else noAttribute (.cls id) a

/-- An attribute of the classes above one, for an object. -/
def inheritedAttribute (cls : Nat) (self : Thing) (a : Text) : Load Thing := do
  let w ← get
  match ((w.lineageClasses cls).drop 1).findSome? fun c => getThing? c.attrs a with
  | some (.function f) => pure (.bound self f)
  | some t => pure t
  | none =>
    if Machine.objectNames.elem a || w.isForeign cls then pure .unseen
    else noAttribute (.ancestor cls self) a

/-- An attribute of an object: its own, or one of its class; functions are bound to the object. -/
def objectAttribute (id : Nat) (a : Text) : Load Thing := do
  let w ← get
  match w.objects[id]? with
  | none => Load.fail .unsupported
  | some (cls, attrs) =>
    match getThing? attrs a with
    | some t => pure t
    | none =>
      match w.classAttr? cls a with
      | some (.function f) => pure (.bound (.object id) f)
      | some t => pure t
      | none =>
        if a = Text.ofString "__class__" then pure (.cls cls)
        else if a = Text.ofString "__dict__" then pure (.ofEntries attrs)
        else if Machine.objectNames.elem a || w.isForeign cls then pure .unseen
        else noAttribute (.object id) a

/-- The methods of values that modules call. -/
def valueMethods : List Text :=
  (["join", "format", "upper", "lower", "strip", "split", "replace", "items", "keys", "values", "get",
    "append", "extend", "update", "copy", "pop", "title", "startswith", "endswith"] : List String).map
    Text.ofString

/-- An attribute of a thing. -/
def memberOf (t : Thing) (a : Text) : Load Thing :=
  match t with
  | .cls id => classAttribute id a
  | .object id => objectAttribute id a
  | .ancestor cls self => inheritedAttribute cls self a
  | .library .module n => pure (Library.member n a)
  | .library _ _ => pure .unseen
  | .unseen => pure .unseen
  | .typeForm _ => pure .unseen
  | .tool _ => pure .unseen
  | .bound _ _ => pure .unseen
  | .settings s =>
    match (s.toOptions.find? (·.1 == a)).map (·.2) with
    | some v => pure (.value v)
    | none =>
      if Text.startsWith "model_" a then pure .unseen else noAttribute t a
  | .value _ => if valueMethods.elem a then pure .unseen else noAttribute t a
  | .builderClass d => do
    match (← get).derivations[d]? with
    | some d =>
      if a = Text.ofString "__name__" then pure (.str d.builderName)
      else if a = Text.ofString "__qualname__" then pure (.str d.builderPath)
      else if a = Text.ofString "__module__" then pure (.str moduleName)
      else pure .unseen
    | none => pure .unseen
  | .staticFactory _ => if Text.startsWith "__" a then pure .unseen else noAttribute t a
  | t => noAttribute t a

/-- The attributes by which the source of a class is found. -/
def identity : List Text :=
  (["__name__", "__qualname__", "__module__"] : List String).map Text.ofString

/-- Sets an attribute of a thing. -/
def setAttribute (t : Thing) (a : Text) (new : Thing) : Load Unit :=
  match t with
  | .cls id => if identity.elem a then Load.fail .unsupported else modify (·.setClassAttr id a new)
  | .object id =>
    modify fun w =>
      { w with objects := w.objects.modify id fun (c, attrs) => (c, putThing a new attrs) }
  | .value _ => noAttribute t a
  | _ => pure ()

end Loading

end FluentRecords
