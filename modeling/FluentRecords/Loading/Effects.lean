import FluentRecords.Syntax.Tree

/-!
Expressions that do nothing but give a result. Only such expressions may be passed over when a module runs.
-/

namespace FluentRecords

mutual

/-- Whether the evaluation of an expression may call something, bind a name or wait. -/
def Expr.acts : Expr → Bool
  | .name _ => false
  | .constant _ => false
  | .formatted parts => actsInParts parts
  | .tuple es => actsIn es
  | .list es => actsIn es
  | .set es => actsIn es
  | .dict items => actsInItems items
  | .member e _ => e.acts
  | .subscript e i => e.acts || i.acts
  | .slice lower upper step => actsOption lower || actsOption upper || actsOption step
  | .starred e => e.acts
  | .call _ _ _ => true
  | .unary _ e => e.acts
  | .binary _ l r => l.acts || r.acts
  | .bool _ es => actsIn es
  | .compare l rest => l.acts || actsInComparisons rest
  | .conditional test body orelse => test.acts || body.acts || orelse.acts
  | .lambda ps _ => ps.acts
  | .named _ _ => true
  | .await _ => true
  | .yield _ => true
  | .yieldFrom _ => true
  | .listComp e clauses => e.acts || actsInClauses clauses
  | .setComp e clauses => e.acts || actsInClauses clauses
  | .generator e clauses => e.acts || actsInClauses clauses
  | .dictComp k v clauses => k.acts || v.acts || actsInClauses clauses

/-- Whether one of several expressions may. -/
def actsIn : List Expr → Bool
  | [] => false
  | e :: rest => e.acts || actsIn rest

/-- Whether an expression that need not be there may. -/
def actsOption : Option Expr → Bool
  | none => false
  | some e => e.acts

/-- Whether a field of a formatted string may. -/
def actsInParts : List FormatPart → Bool
  | [] => false
  | .literal _ :: rest => actsInParts rest
  | .field e _ :: rest => e.acts || actsInParts rest
  | .fieldWith e _ format :: rest => e.acts || actsInParts format || actsInParts rest

/-- Whether an entry of a dictionary may. -/
def actsInItems : List DictItem → Bool
  | [] => false
  | .entry k v :: rest => k.acts || v.acts || actsInItems rest
  | .unpack e :: rest => e.acts || actsInItems rest

/-- Whether an operand of a comparison may. -/
def actsInComparisons : List Comparison → Bool
  | [] => false
  | .mk _ e :: rest => e.acts || actsInComparisons rest

/-- Whether a clause of a comprehension may. -/
def actsInClauses : List Clause → Bool
  | [] => false
  | .mk isAsync _ iter conditions :: rest => isAsync || iter.acts || actsIn conditions || actsInClauses rest

/-- Whether a default of a parameter may. -/
def Params.acts : Params → Bool
  | .mk positional regular _ keyword _ => actsInDefaults positional || actsInDefaults regular || actsInDefaults keyword

/-- Whether a default may. -/
def actsInDefaults : List Param → Bool
  | [] => false
  | .mk _ _ dflt :: rest => actsOption dflt || actsInDefaults rest

end

end FluentRecords
