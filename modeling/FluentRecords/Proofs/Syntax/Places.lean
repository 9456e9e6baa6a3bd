import FluentRecords.Syntax.Printer.Expr

/-!
Places in expressions. Keyword arguments are the only parts of an expression that have places, and how an expression
is written does not depend on them.
-/

namespace FluentRecords

mutual

/-- An expression with other places in it. -/
def Expr.mapPlaces (f : Pos → Pos) : Expr → Expr
  | .name n => .name n
  | .constant c => .constant c
  | .formatted parts => .formatted (mapPlacesParts f parts)
  | .tuple es => .tuple (mapPlacesAll f es)
  | .list es => .list (mapPlacesAll f es)
  | .set es => .set (mapPlacesAll f es)
  | .dict items => .dict (mapPlacesItems f items)
  | .member e a => .member (e.mapPlaces f) a
  | .subscript e i => .subscript (e.mapPlaces f) (i.mapPlaces f)
  | .slice lower upper step =>
    .slice (mapPlacesOption f lower) (mapPlacesOption f upper) (mapPlacesOption f step)
  | .starred e => .starred (e.mapPlaces f)
  | .call g args keywords => .call (g.mapPlaces f) (mapPlacesAll f args) (mapPlacesKeywords f keywords)
  | .unary op e => .unary op (e.mapPlaces f)
  | .binary op l r => .binary op (l.mapPlaces f) (r.mapPlaces f)
  | .bool op es => .bool op (mapPlacesAll f es)
  | .compare l rest => .compare (l.mapPlaces f) (mapPlacesComparisons f rest)
  | .conditional test body orelse => .conditional (test.mapPlaces f) (body.mapPlaces f) (orelse.mapPlaces f)
  | .lambda ps e => .lambda (ps.mapPlaces f) (e.mapPlaces f)
  | .named target e => .named (target.mapPlaces f) (e.mapPlaces f)
  | .await e => .await (e.mapPlaces f)
  | .yield e => .yield (mapPlacesOption f e)
  | .yieldFrom e => .yieldFrom (e.mapPlaces f)
  | .listComp e clauses => .listComp (e.mapPlaces f) (mapPlacesClauses f clauses)
  | .setComp e clauses => .setComp (e.mapPlaces f) (mapPlacesClauses f clauses)
  | .generator e clauses => .generator (e.mapPlaces f) (mapPlacesClauses f clauses)
  | .dictComp k v clauses => .dictComp (k.mapPlaces f) (v.mapPlaces f) (mapPlacesClauses f clauses)

def mapPlacesOption (f : Pos → Pos) : Option Expr → Option Expr
  | none => none
  | some e => some (e.mapPlaces f)

def mapPlacesAll (f : Pos → Pos) : List Expr → List Expr
  | [] => []
  | e :: rest => e.mapPlaces f :: mapPlacesAll f rest

def mapPlacesParts (f : Pos → Pos) : List FormatPart → List FormatPart
  | [] => []
  | .literal t :: rest => .literal t :: mapPlacesParts f rest
  | .field e conversion :: rest => .field (e.mapPlaces f) conversion :: mapPlacesParts f rest
  | .fieldWith e conversion format :: rest =>
    .fieldWith (e.mapPlaces f) conversion (mapPlacesParts f format) :: mapPlacesParts f rest

def mapPlacesItems (f : Pos → Pos) : List DictItem → List DictItem
  | [] => []
  | .entry k v :: rest => .entry (k.mapPlaces f) (v.mapPlaces f) :: mapPlacesItems f rest
  | .unpack e :: rest => .unpack (e.mapPlaces f) :: mapPlacesItems f rest

def mapPlacesKeywords (f : Pos → Pos) : List Keyword → List Keyword
  | [] => []
  | .mk n place e :: rest => .mk n (f place) (e.mapPlaces f) :: mapPlacesKeywords f rest

def mapPlacesComparisons (f : Pos → Pos) : List Comparison → List Comparison
  | [] => []
  | .mk op e :: rest => .mk op (e.mapPlaces f) :: mapPlacesComparisons f rest

def mapPlacesClauses (f : Pos → Pos) : List Clause → List Clause
  | [] => []
  | .mk isAsync target iter conditions :: rest =>
    .mk isAsync (target.mapPlaces f) (iter.mapPlaces f) (mapPlacesAll f conditions) :: mapPlacesClauses f rest

def mapPlacesParam (f : Pos → Pos) : Param → Param
  | .mk n type dflt => .mk n (mapPlacesOption f type) (mapPlacesOption f dflt)

def mapPlacesParams (f : Pos → Pos) : List Param → List Param
  | [] => []
  | p :: rest => mapPlacesParam f p :: mapPlacesParams f rest

def mapPlacesRest (f : Pos → Pos) : Option Param → Option Param
  | none => none
  | some p => some (mapPlacesParam f p)

def Params.mapPlaces (f : Pos → Pos) : Params → Params
  | .mk positional regular rest keyword keywordRest =>
    .mk (mapPlacesParams f positional) (mapPlacesParams f regular) (mapPlacesRest f rest)
      (mapPlacesParams f keyword) (mapPlacesRest f keywordRest)

end

namespace Expr

/-- Between the brackets of a subscript, only a nonempty tuple is written differently than alone. -/
theorem render_subscript {value index : Expr} {avoid : Bool} {required : Strength}
    (single : ∀ first rest, index ≠ .tuple (first :: rest)) :
    (subscript value index).render avoid required = (do
      let t ← value.render avoid .atom
      let i ← index.render avoid .test
      .ok (t ++ "[" ++ i ++ "]")) := by
  rw [render]
  exact single

variable (f : Pos → Pos)

theorem isInteger_mapPlaces (e : Expr) : (e.mapPlaces f).isInteger = e.isInteger := by
  cases e <;> rfl

theorem isEmpty_mapPlacesAll (es : List Expr) : (mapPlacesAll f es).isEmpty = es.isEmpty := by
  cases es <;> rfl

theorem mapPlaces_ne_tuple {e : Expr} (single : ∀ first rest, e ≠ .tuple (first :: rest)) (first : Expr)
    (rest : List Expr) : e.mapPlaces f ≠ .tuple (first :: rest) := by
  intro same
  cases e with
  | tuple es =>
    cases es with
    | nil => cases same
    | cons first' rest' => exact single first' rest' rfl
  | _ => cases same

theorem render_subscript_mapPlaces {value index : Expr} {avoid : Bool} {required : Strength}
    (single : ∀ first rest, index ≠ .tuple (first :: rest))
    (same : (value.mapPlaces f).render avoid .atom = value.render avoid .atom)
    (inside : (index.mapPlaces f).render avoid .test = index.render avoid .test) :
    ((subscript value index).mapPlaces f).render avoid required = (subscript value index).render avoid required := by
  rw [mapPlaces, render_subscript (mapPlaces_ne_tuple f single), render_subscript single, same, inside]

theorem isSome_mapPlacesOption (e : Option Expr) : (mapPlacesOption f e).isSome = e.isSome := by
  cases e <;> rfl

mutual

/-- An expression is written the same, whatever the places in it are. -/
theorem render_mapPlaces (avoid : Bool) (required : Strength) : (e : Expr) →
    (e.mapPlaces f).render avoid required = e.render avoid required
  | .name _ => rfl
  | .constant _ => rfl
  | .formatted parts => by
    simp only [mapPlaces, render, renderParts_mapPlaces parts, renderFormat_mapPlaces parts]
  | .tuple es => by simp only [mapPlaces, render, renderAll_mapPlaces avoid es, isEmpty_mapPlacesAll]
  | .list es => by simp only [mapPlaces, render, renderAll_mapPlaces avoid es]
  | .set es => by simp only [mapPlaces, render, renderAll_mapPlaces avoid es, isEmpty_mapPlacesAll]
  | .dict items => by simp only [mapPlaces, render, renderItems_mapPlaces avoid items]
  | .member e _ => by simp only [mapPlaces, render, render_mapPlaces avoid _ e, isInteger_mapPlaces]
  | .subscript e i => by
    have whole := render_mapPlaces avoid .test i
    cases i with
    | tuple es =>
      cases es with
      | nil => simp only [mapPlaces, mapPlacesAll, render, render_mapPlaces avoid _ e]
      | cons i is =>
        simp only [mapPlaces, mapPlacesAll, render, render_mapPlaces avoid _ e, render_mapPlaces avoid _ i,
          renderAll_mapPlaces avoid is]
    | _ => exact render_subscript_mapPlaces f (fun _ _ => nofun) (render_mapPlaces avoid _ e) whole
  | .slice l u s => by
    simp only [mapPlaces, render, renderOption_mapPlaces avoid l, renderOption_mapPlaces avoid u,
      renderOption_mapPlaces avoid s, isSome_mapPlacesOption]
  | .starred e => by simp only [mapPlaces, render, render_mapPlaces avoid _ e]
  | .call g args keywords => by
    simp only [mapPlaces, render, render_mapPlaces avoid _ g, renderAll_mapPlaces avoid args,
      renderKeywords_mapPlaces avoid keywords]
  | .unary _ e => by simp only [mapPlaces, render, render_mapPlaces avoid _ e]
  | .binary _ l r => by simp only [mapPlaces, render, render_mapPlaces avoid _ l, render_mapPlaces avoid _ r]
  | .bool _ es => by simp only [mapPlaces, render, renderRising_mapPlaces avoid _ es]
  | .compare l rest => by
    simp only [mapPlaces, render, render_mapPlaces avoid _ l, renderComparisons_mapPlaces avoid rest]
  | .conditional test body orelse => by
    simp only [mapPlaces, render, render_mapPlaces avoid _ test, render_mapPlaces avoid _ body,
      render_mapPlaces avoid _ orelse]
  | .lambda ps e => by
    simp only [mapPlaces, render, renderParams_mapPlaces avoid ps, render_mapPlaces avoid _ e]
  | .named target e => by
    simp only [mapPlaces, render, render_mapPlaces avoid _ target, render_mapPlaces avoid _ e]
  | .await e => by simp only [mapPlaces, render, render_mapPlaces avoid _ e]
  | .yield none => rfl
  | .yield (some e) => by simp only [mapPlaces, mapPlacesOption, render, render_mapPlaces avoid _ e]
  | .yieldFrom e => by simp only [mapPlaces, render, render_mapPlaces avoid _ e]
  | .listComp e clauses => by
    simp only [mapPlaces, render, render_mapPlaces avoid _ e, renderClauses_mapPlaces avoid clauses]
  | .setComp e clauses => by
    simp only [mapPlaces, render, render_mapPlaces avoid _ e, renderClauses_mapPlaces avoid clauses]
  | .generator e clauses => by
    simp only [mapPlaces, render, render_mapPlaces avoid _ e, renderClauses_mapPlaces avoid clauses]
  | .dictComp k v clauses => by
    simp only [mapPlaces, render, render_mapPlaces avoid _ k, render_mapPlaces avoid _ v,
      renderClauses_mapPlaces avoid clauses]

theorem renderOption_mapPlaces (avoid : Bool) : (e : Option Expr) →
    renderOption avoid (mapPlacesOption f e) = renderOption avoid e
  | none => rfl
  | some e => by simp only [mapPlacesOption, renderOption, render_mapPlaces avoid _ e]

theorem renderAll_mapPlaces (avoid : Bool) : (es : List Expr) →
    renderAll avoid (mapPlacesAll f es) = renderAll avoid es
  | [] => rfl
  | e :: rest => by
    simp only [mapPlacesAll, renderAll, render_mapPlaces avoid _ e, renderAll_mapPlaces avoid rest]

theorem renderRising_mapPlaces (avoid : Bool) (required : Strength) : (es : List Expr) →
    renderRising avoid required (mapPlacesAll f es) = renderRising avoid required es
  | [] => rfl
  | e :: rest => by
    simp only [mapPlacesAll, renderRising, render_mapPlaces avoid _ e, renderRising_mapPlaces avoid _ rest]

theorem renderItems_mapPlaces (avoid : Bool) : (items : List DictItem) →
    renderItems avoid (mapPlacesItems f items) = renderItems avoid items
  | [] => rfl
  | .entry k v :: rest => by
    simp only [mapPlacesItems, renderItems, render_mapPlaces avoid _ k, render_mapPlaces avoid _ v,
      renderItems_mapPlaces avoid rest]
  | .unpack e :: rest => by
    simp only [mapPlacesItems, renderItems, render_mapPlaces avoid _ e, renderItems_mapPlaces avoid rest]

theorem renderKeywords_mapPlaces (avoid : Bool) : (ks : List Keyword) →
    renderKeywords avoid (mapPlacesKeywords f ks) = renderKeywords avoid ks
  | [] => rfl
  | .mk _ _ e :: rest => by
    simp only [mapPlacesKeywords, renderKeywords, render_mapPlaces avoid _ e, renderKeywords_mapPlaces avoid rest]

theorem renderComparisons_mapPlaces (avoid : Bool) : (cs : List Comparison) →
    renderComparisons avoid (mapPlacesComparisons f cs) = renderComparisons avoid cs
  | [] => rfl
  | .mk _ e :: rest => by
    simp only [mapPlacesComparisons, renderComparisons, render_mapPlaces avoid _ e,
      renderComparisons_mapPlaces avoid rest]

theorem renderClauses_mapPlaces (avoid : Bool) : (cs : List Clause) →
    renderClauses avoid (mapPlacesClauses f cs) = renderClauses avoid cs
  | [] => rfl
  | .mk _ target iter conditions :: rest => by
    simp only [mapPlacesClauses, renderClauses, render_mapPlaces avoid _ target, render_mapPlaces avoid _ iter,
      renderConditions_mapPlaces avoid conditions, renderClauses_mapPlaces avoid rest]

theorem renderConditions_mapPlaces (avoid : Bool) : (es : List Expr) →
    renderConditions avoid (mapPlacesAll f es) = renderConditions avoid es
  | [] => rfl
  | e :: rest => by
    simp only [mapPlacesAll, renderConditions, render_mapPlaces avoid _ e, renderConditions_mapPlaces avoid rest]

theorem renderParts_mapPlaces : (parts : List FormatPart) →
    renderParts (mapPlacesParts f parts) = renderParts parts
  | [] => rfl
  | .literal _ :: rest => by simp only [mapPlacesParts, renderParts, renderParts_mapPlaces rest]
  | .field e _ :: rest => by
    simp only [mapPlacesParts, renderParts, render_mapPlaces true _ e, renderParts_mapPlaces rest]
  | .fieldWith e _ format :: rest => by
    simp only [mapPlacesParts, renderParts, render_mapPlaces true _ e, renderFormat_mapPlaces format,
      renderParts_mapPlaces rest]

theorem renderFormat_mapPlaces : (parts : List FormatPart) →
    renderFormat (mapPlacesParts f parts) = renderFormat parts
  | [] => rfl
  | .literal _ :: rest => by simp only [mapPlacesParts, renderFormat, renderFormat_mapPlaces rest]
  | .field e _ :: rest => by
    simp only [mapPlacesParts, renderFormat, render_mapPlaces true _ e, renderFormat_mapPlaces rest]
  | .fieldWith e _ format :: rest => by
    simp only [mapPlacesParts, renderFormat, render_mapPlaces true _ e, renderFormat_mapPlaces format,
      renderFormat_mapPlaces rest]

theorem renderParam_mapPlaces (avoid : Bool) (stars : Text) : (p : Param) →
    renderParam avoid stars (mapPlacesParam f p) = renderParam avoid stars p
  | .mk _ type dflt => by
    simp only [mapPlacesParam, renderParam, renderOption_mapPlaces avoid type, renderOption_mapPlaces avoid dflt,
      isSome_mapPlacesOption]

theorem renderParamList_mapPlaces (avoid : Bool) : (ps : List Param) →
    renderParamList avoid (mapPlacesParams f ps) = renderParamList avoid ps
  | [] => rfl
  | p :: rest => by
    simp only [mapPlacesParams, renderParamList, renderParam_mapPlaces avoid _ p, renderParamList_mapPlaces avoid rest]

theorem renderParamOption_mapPlaces (avoid : Bool) (stars : Text) : (p : Option Param) →
    renderParamOption avoid stars (mapPlacesRest f p) = renderParamOption avoid stars p
  | none => rfl
  | some p => by simp only [mapPlacesRest, renderParamOption, renderParam_mapPlaces avoid _ p]

theorem renderParams_mapPlaces (avoid : Bool) : (ps : Params) →
    renderParams avoid (ps.mapPlaces f) = renderParams avoid ps
  | .mk positional regular rest keyword keywordRest => by
    simp only [Params.mapPlaces, renderParams, renderParamList_mapPlaces avoid positional,
      renderParamList_mapPlaces avoid regular, renderParamOption_mapPlaces avoid _ rest,
      renderParamList_mapPlaces avoid keyword, renderParamOption_mapPlaces avoid _ keywordRest]

end

end Expr

end FluentRecords
