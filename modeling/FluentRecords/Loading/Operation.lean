import FluentRecords.Loading.Attribute

/-!
Operators, displays and comparisons. Where the operands are no values, the result is not looked into.
-/

namespace FluentRecords

namespace Loading

/-- The sum of two values. -/
def sum? : Value → Value → Option Value
  | .int i, .int j => some (.int (i + j))
  | .str s, .str t => some (.str (s ++ t))
  | .list s, .list t => some (.list (s ++ t))
  | .tuple s, .tuple t => some (.tuple (s ++ t))
  | _, _ => none

/-- Whether two values can be joined as alternatives. -/
def joinable : Value → Value → Bool
  | .int _, .int _ => true
  | .bool _, .bool _ => true
  | .bool _, .int _ => true
  | .int _, .bool _ => true
  | .set _, .set _ => true
  | .dict _, .dict _ => true
  | _, _ => false

/-- The result of an operator. -/
def operate (op : BinaryOp) (l r : Thing) : Load Thing :=
  match op, l, r with
  | .add, .value v, .value w => pure ((sum? v w).elim .unseen .value)
  | .sub, .value (.int i), .value (.int j) => pure (.value (.int (i - j)))
  | .mul, .value (.int i), .value (.int j) => pure (.value (.int (i * j)))
  | .div, .value (.int _), .value (.int 0) => Load.raise "ZeroDivisionError" "division by zero"
  | .floorDiv, .value (.int _), .value (.int 0) =>
    Load.raise "ZeroDivisionError" "integer division or modulo by zero"
  | .bitOr, .value v, .value w =>
    if joinable v w then pure .unseen
    else
      Load.raise "TypeError" ("unsupported operand type(s) for |: '" ++ v.kindName ++ "' and '"
        ++ w.kindName ++ "'")
  | .bitOr, _, _ => pure (.typeForm .plain)
  | _, _, _ => pure .unseen

/-- Whether two things are the same class, function or equal value. -/
def same : Thing → Thing → Bool
  | .value v, .value w => v.same w
  | .cls a, .cls b => a == b
  | .object a, .object b => a == b
  | .function a, .function b => a == b
  | .library _ a, .library _ b => a == b
  | .tool a, .tool b => a == b
  | _, _ => false

/-- The order of two values of one kind, where it is looked into. -/
def order? : Value → Value → Option Ordering
  | .int i, .int j => some (Ord.compare i j)
  | .str s, .str t => some (if s == t then .eq else if Text.le s t then .lt else .gt)
  | _, _ => none

/-- Whether a comparison holds for an order. -/
def holds : CompareOp → Ordering → Bool
  | .lt, o => o.isLT
  | .le, o => o.isLE
  | .gt, o => o.isGT
  | .ge, o => o.isGE
  | _, _ => false

/-- Whether an integer or a text is compared with a value of another kind, which has no order. -/
def unordered : Value → Value → Bool
  | .str _, .str _ => false
  | .str _, _ => true
  | _, .str _ => true
  | .none, _ => true
  | _, .none => true
  | _, _ => false

/-- The result of a comparison. -/
def compare (op : CompareOp) (l r : Thing) : Load Thing :=
  let truth (b : Bool) : Load Thing := pure (.value (.bool b))
  match op, l, r with
  | .eq, _, _ => truth (same l r)
  | .is, _, _ => truth (same l r)
  | .notEq, _, _ => truth (!same l r)
  | .isNot, _, _ => truth (!same l r)
  | .isIn, _, _ => pure .unseen
  | .notIn, _, _ => pure .unseen
  | op, .value v, .value w =>
    match order? v w with
    | some o => truth (holds op o)
    | none =>
      if unordered v w then
        Load.raise "TypeError" ("'" ++ op.sign ++ "' not supported between instances of '"
          ++ v.kindName ++ "' and '" ++ w.kindName ++ "'")
      else pure .unseen
  | _, _, _ => pure .unseen

/-- A set of things. -/
def setOf (ts : List Thing) : Load Thing :=
  match ts.mapM Thing.value? with
  | none => pure .unseen
  | some vs =>
    match vs.findSome? Value.unkeyable? with
    | some v => throw (.breakdown (.unhashable v.kindName))
    | none => pure (.value (.set (vs.foldl (fun done v => v.addMember done) [])))

/-- A mapping of things. -/
def mappingOf (es : List (Thing × Thing)) : Load Thing :=
  match es.findSome? fun e => e.1.value?.bind Value.unkeyable? with
  | some v => throw (.breakdown (.unhashable v.kindName))
  | none =>
    match es.mapM fun e => do some (← e.1.value?, ← e.2.value?) with
    | some vs => pure (.value (.dict (vs.foldl (fun done (k, v) => Value.putEntry k v done) [])))
    | none =>
      match es.mapM fun
        | (.value (.str k), t) => some (k, t)
        | _ => none with
      | some named => pure (.mapping (named.foldl (fun done (k, t) => putThing k t done) []))
      | none => pure .unseen

end Loading

end FluentRecords
