import FluentRecords.Breakdown
import FluentRecords.Value

/-!
What literal expressions denote: constants, signed numbers, complex numbers written as a sum, and
displays of such. Displays are read from left to right; a set or a dictionary takes up each of its
entries before the next one is read.
-/

namespace FluentRecords

/-- Why an expression denotes no value. -/
inductive LiteralFault
  | notLiteral
  | breakdown (b : Breakdown)

namespace Value

/-- The value of a constant. -/
def ofConstant : Constant → Value
  | .none => .none
  | .ellipsis => .ellipsis
  | .bool b => .bool b
  | .int n => .int n
  | .float x => .float x
  | .imaginary x => .complex .zero x
  | .str t _ => .str t
  | .bytes bs => .bytes bs

/-- The opposite of a number. -/
def negated? : Value → Option Value
  | .int i => some (.int (-i))
  | .float x => some (.float x.neg)
  | .complex re im => some (.complex re.neg im.neg)
  | _ => Option.none

/-- Whether a value is a number; truth values are none here. -/
def isNumber : Value → Bool
  | .int _ => true
  | .float _ => true
  | .complex _ _ => true
  | _ => false

/-- A real number for the real part of a complex one. -/
def realPart : Value → Except LiteralFault Binary64
  | .int i =>
    match (Binary64.ofInt i).magnitude with
    | .infinite => .error (.breakdown .hugeInteger)
    | _ => .ok (Binary64.ofInt i)
  | .float x => .ok x
  | _ => .error .notLiteral

/-- The value when it can be a key or a member. -/
def keyable (v : Value) : Except LiteralFault Value :=
  match v.unkeyable? with
  | some w => .error (.breakdown (.unhashable w.kindName))
  | Option.none => .ok v

end Value

namespace Binary64

/-- The number with the sign of a negative zero lost, as it is by adding zero. -/
def plusZero (x : Binary64) : Binary64 :=
  if x.same .zero then .zero else x

/-- Zero less a number. -/
def zeroMinus (x : Binary64) : Binary64 :=
  if x.same .zero then .zero else x.neg

end Binary64

namespace Expr

/-- A number without a sign. -/
def unsigned : Expr → Except LiteralFault Value
  | constant c => if (Value.ofConstant c).isNumber then .ok (Value.ofConstant c) else .error .notLiteral
  | _ => .error .notLiteral

/-- A number with at most one sign. -/
def signed : Expr → Except LiteralFault Value
  | unary .plus e => unsigned e
  | unary .minus e => do
    let v ← unsigned e
    match v.negated? with
    | some w => .ok w
    | none => .error .notLiteral
  | e => unsigned e

/-- A complex number written as a real and an imaginary one. -/
def complexSum (add : Bool) (left right : Expr) : Except LiteralFault Value := do
  let l ← signed left
  let r ← unsigned right
  match r with
  | .complex _ im => do
    let re ← l.realPart
    if add then .ok (.complex re.plusZero im.plusZero) else .ok (.complex re im.zeroMinus)
  | _ => .error .notLiteral

mutual

/-- The value of a literal. -/
def literal : Expr → Except LiteralFault Value
  | constant c => .ok (Value.ofConstant c)
  | tuple es => do
    let vs ← literals es
    .ok (.tuple vs)
  | list es => do
    let vs ← literals es
    .ok (.list vs)
  | set es => do
    let vs ← members [] es
    .ok (.set vs)
  | call (name n) [] [] => if n = Text.ofString "set" then .ok (.set []) else .error .notLiteral
  | dict items => do
    let es ← entries [] items
    .ok (.dict es)
  | binary .add l r => complexSum true l r
  | binary .sub l r => complexSum false l r
  | e => signed e

/-- The values of literals. -/
def literals : List Expr → Except LiteralFault (List Value)
  | [] => .ok []
  | e :: rest => do
    let v ← literal e
    let vs ← literals rest
    .ok (v :: vs)

/-- The members of a set, after those already read. -/
def members (done : List Value) : List Expr → Except LiteralFault (List Value)
  | [] => .ok done
  | e :: rest => do
    let v ← literal e
    let v ← v.keyable
    members (v.addMember done) rest

/-- The entries of a dictionary, after those already read. -/
def entries (done : List (Value × Value)) :
    List DictItem → Except LiteralFault (List (Value × Value))
  | [] => .ok done
  | .entry k v :: rest => do
    let key ← literal k
    let value ← literal v
    let key ← key.keyable
    entries (Value.putEntry key value done) rest
  | .unpack _ :: _ => .error .notLiteral

end

end Expr

end FluentRecords
