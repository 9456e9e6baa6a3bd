import FluentRecords.Decimal.Shortest
import FluentRecords.Text.Utf8

/-!
Literal values: what a setting can be given, what a literal in a module denotes, and what a session
hands to a setter. `Value.text` is the written form used in reports, `Value.kindName` the name of its
kind there, and `Value.same` the equality under which sets and dictionaries merge their entries:
truth values and numbers are compared by their numerical value.
-/

namespace FluentRecords

/-- A literal value. -/
inductive Value
  | none
  | ellipsis
  | bool (b : Bool)
  | int (i : Int)
  | float (x : Binary64)
  | complex (re im : Binary64)
  | str (t : Text)
  | bytes (bs : List UInt8)
  | list (elems : List Value)
  | tuple (elems : List Value)
  | set (elems : List Value)
  | dict (entries : List (Value × Value))
deriving Inhabited

namespace Value

/-- The name of the kind of a value. -/
def kindName : Value → Text
  | none => "NoneType"
  | ellipsis => "ellipsis"
  | bool _ => "bool"
  | int _ => "int"
  | float _ => "float"
  | complex _ _ => "complex"
  | str _ => "str"
  | bytes _ => "bytes"
  | list _ => "list"
  | tuple _ => "tuple"
  | set _ => "set"
  | dict _ => "dict"

/-- The text of a truth value. -/
def boolText (b : Bool) : Text :=
  if b then "True" else "False"

/-- The text of a complex number: the real part is left out when it is the positive zero. -/
def complexText (re im : Binary64) : Text :=
  if re = Binary64.zero then im.shortText ++ "j"
  else "(" ++ re.shortText ++ Text.when (!im.negative) "+" ++ im.shortText ++ "j)"

mutual

/-- The written form of a value. -/
def text : Value → Text
  | none => "None"
  | ellipsis => "Ellipsis"
  | bool b => boolText b
  | int i => Text.ofInt i
  | float x => x.text
  | complex re im => complexText re im
  | str t => Text.quote t
  | bytes bs => Text.quoteBytes bs
  | list elems => "[" ++ Text.join ", " (texts elems) ++ "]"
  | tuple [] => "()"
  | tuple [v] => "(" ++ text v ++ ",)"
  | tuple elems => "(" ++ Text.join ", " (texts elems) ++ ")"
  | set [] => "set()"
  | set elems => "\x7b" ++ Text.join ", " (texts elems) ++ "\x7d"
  | dict entries => "\x7b" ++ Text.join ", " (entryTexts entries) ++ "\x7d"

/-- The written forms of several values. -/
def texts : List Value → List Text
  | [] => []
  | v :: rest => text v :: texts rest

/-- The written forms of dictionary entries. -/
def entryTexts : List (Value × Value) → List Text
  | [] => []
  | (k, v) :: rest => (text k ++ ": " ++ text v) :: entryTexts rest

end

/-- A value as a number with an imaginary part. -/
def number? : Value → Option (Binary64 × Binary64)
  | bool b => some (Binary64.ofInt (if b then 1 else 0), Binary64.zero)
  | int i => some (Binary64.ofInt i, Binary64.zero)
  | float x => some (x, Binary64.zero)
  | complex re im => some (re, im)
  | _ => Option.none

/-- The exact integer a number is equal to. -/
def integer? : Value → Option Int
  | bool b => some (if b then 1 else 0)
  | int i => some i
  | float x => x.toInt?
  | complex re im => if im.same .zero then re.toInt? else Option.none
  | _ => Option.none

/-- Equality of two numbers: integers are compared exactly. -/
def sameNumber (v w : Value) : Bool :=
  match integer? v, integer? w with
  | some i, some j => i == j
  | Option.none, Option.none =>
    match number? v, number? w with
    | some (a, b), some (c, d) => a.same c && b.same d
    | _, _ => false
  | _, _ => false

mutual

/-- Equality of values as members of a set or keys of a dictionary. -/
def same : Value → Value → Bool
  | none, none => true
  | ellipsis, ellipsis => true
  | str s, str t => s == t
  | bytes s, bytes t => s == t
  | tuple vs, tuple ws => sameAll vs ws
  | v, w => sameNumber v w

/-- Equality member by member. -/
def sameAll : List Value → List Value → Bool
  | [], [] => true
  | v :: vs, w :: ws => same v w && sameAll vs ws
  | _, _ => false

end

mutual

/-- The first value inside that cannot be a key: lists, sets and dictionaries have no fixed identity. -/
def unkeyable? : Value → Option Value
  | list vs => some (list vs)
  | set vs => some (set vs)
  | dict es => some (dict es)
  | tuple vs => unkeyableOf? vs
  | _ => Option.none

/-- The first value that cannot be a key, among several. -/
def unkeyableOf? : List Value → Option Value
  | [] => Option.none
  | v :: rest => (unkeyable? v).or (unkeyableOf? rest)

end

/-- Puts a member before the first greater integer if it is an integer itself, else at the end. -/
def placeMember (v : Value) : List Value → List Value
  | [] => [v]
  | w :: rest =>
    match v, w with
    | int i, int j => if i < j then v :: w :: rest else w :: placeMember v rest
    | _, _ => w :: placeMember v rest

/-- Adds a member unless an equal one is there; integers stand in increasing order. -/
def addMember (v : Value) (members : List Value) : List Value :=
  if members.any (same · v) then members else placeMember v members

/-- Puts an entry under a key; an equal key keeps its place and spelling and gets the new value. -/
def putEntry (k v : Value) : List (Value × Value) → List (Value × Value)
  | [] => [(k, v)]
  | (k', v') :: rest => if same k' k then (k', v) :: rest else (k', v') :: putEntry k v rest

end Value

end FluentRecords
