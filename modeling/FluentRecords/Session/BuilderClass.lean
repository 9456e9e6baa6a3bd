import FluentRecords.Builder.Emission
import FluentRecords.Denotation

/-!
Builder classes as they come out of their declaration. Inside a class a name with two leading
underscores, and not two trailing ones, is private: it is prefixed with the name of the class. Methods
and slots of one name cannot both be kept.
-/

namespace FluentRecords

namespace Text

/-- Whether a text begins with two underscores and does not end with two. -/
def isPrivate (n : Text) : Bool :=
  startsWith [95, 95] n && !startsWith [95, 95] n.reverse

/-- The name under which a class keeps a name: a private one is prefixed with the name of the class,
its leading underscores dropped. -/
def mangle (cls n : Text) : Text :=
  let stem := cls.dropWhile (· == 95)
  if isPrivate n && !stem.isEmpty then 95 :: stem ++ n else n

end Text

/-- A method: the name in its reports, its parameters and its body. -/
structure Method where
  label : Text
  params : List Text
  body : List Stmt

/-- A method under the name by which it is found. -/
structure Member where
  name : Text
  method : Method

/-- A builder class: its slots as declared, and its methods, the last one of a name. -/
structure BuilderClass where
  name : Text
  doc : Text
  slots : List Text
  methods : List Member

/-- Why a declaration does not become a class. -/
inductive ClassFault
  | slotClash (attr : Text)
  | slotsReplaced
  | qualnameReplaced
  | classcellReplaced
  | unsupported

/-- The wording of a fault. -/
def ClassFault.message : ClassFault → Text
  | slotClash a => Text.quote a ++ " in __slots__ conflicts with class variable"
  | slotsReplaced => "'function' object is not iterable"
  | qualnameReplaced => "type __qualname__ must be a str, not function"
  | classcellReplaced => "__classcell__ must be a nonlocal cell, not <class 'function'>"
  | unsupported => "unsupported"

namespace BuilderClass

/-- The attributes under which the slots are stored. -/
def stored (c : BuilderClass) : List Text :=
  c.slots.map (Text.mangle c.name)

/-- The method of a name. -/
def method? (c : BuilderClass) (n : Text) : Option Method :=
  (c.methods.find? (·.name == n)).map (·.method)

/-- Puts a method in the place of one of its name, or at the end. -/
def putMember (m : Member) : List Member → List Member
  | [] => [m]
  | m' :: rest => if m'.name = m.name then m :: rest else m' :: putMember m rest

/-- The names that every class defines besides its methods. -/
def ownNames : List Text :=
  ["__module__", "__doc__", "__slots__"]

/-- The methods that belong to the class even if they are found on a builder. -/
def classHooks : List Text :=
  ["__init_subclass__", "__class_getitem__"]

/-- The names of parameters given by position. -/
def regularNames : Params → List Text
  | .mk _ regular _ _ _ => regular.map Param.name

/-- The method a function declaration defines in a class. -/
def memberOf (cls : Text) : Stmt → Option Member
  | .functionDef _ _ n ps _ _ body =>
    some ⟨Text.mangle cls n, ⟨cls ++ "." ++ n, regularNames ps, body⟩⟩
  | _ => none

/-- The texts of a tuple of texts. -/
def textsOf : List Expr → Option (List Text)
  | [] => some []
  | .constant (.str t _) :: rest => (textsOf rest).map (t :: ·)
  | _ :: _ => none

/-- The class of a declaration: a description, the slots, and then methods. -/
def ofDecl (c : ClassDecl) : Except ClassFault BuilderClass :=
  match c.body with
  | .simple _ (.expression (.constant (.str doc _))) :: .simple _ (.assign _ (.tuple attrs)) :: defs =>
    match textsOf attrs with
    | none => .error .unsupported
    | some slots =>
      let methods := (defs.filterMap (memberOf c.name)).foldl (fun ms m => putMember m ms) []
      let cls : BuilderClass := ⟨c.name, doc, slots, methods⟩
      let names := ownNames ++ methods.map (·.name)
      if methods.any (·.name == Text.ofString "__slots__") then .error .slotsReplaced
      else match cls.stored.find? (names.elem ·) with
        | some a => .error (.slotClash a)
        | none =>
          if methods.any (·.name == Text.ofString "__qualname__") then .error .qualnameReplaced
          else if methods.any (·.name == Text.ofString "__classcell__") then .error .classcellReplaced
          else .ok cls
  | _ => .error .unsupported

end BuilderClass

end FluentRecords
