import FluentRecords.Activation.Arguments
import FluentRecords.Proofs.Record.Influence

/-!
Expressions without their places. What a literal denotes does not depend on where it stands, and neither does which
calls are calls of the settings.
-/

namespace FluentRecords

namespace Expr

variable (f : Pos → Pos)

theorem mapPlacesAll_eq_map (es : List Expr) : mapPlacesAll f es = es.map (mapPlaces f) := by
  induction es with
  | nil => rfl
  | cons e rest ih => rw [mapPlacesAll, ih, List.map_cons]

theorem unsigned_mapPlaces (e : Expr) : (e.mapPlaces f).unsigned = e.unsigned := by
  cases e <;> rfl

theorem signed_mapPlaces (e : Expr) : (e.mapPlaces f).signed = e.signed := by
  cases e with
  | unary op e =>
    cases op with
    | plus => exact unsigned_mapPlaces f e
    | minus => rw [mapPlaces, signed, signed, unsigned_mapPlaces]
    | _ => rfl
  | _ => rfl

theorem complexSum_mapPlaces (add : Bool) (l r : Expr) :
    complexSum add (l.mapPlaces f) (r.mapPlaces f) = complexSum add l r := by
  rw [complexSum, complexSum, signed_mapPlaces, unsigned_mapPlaces]

theorem literal_call_mapPlaces (g : Expr) (args : List Expr) (keywords : List Keyword) :
    (call (g.mapPlaces f) (mapPlacesAll f args) (mapPlacesKeywords f keywords)).literal =
      (call g args keywords).literal := by
  cases args with
  | nil =>
    cases keywords with
    | nil => cases g <;> rfl
    | cons k ks =>
      obtain ⟨n, p, e⟩ := k
      cases g <;> rfl
  | cons a as => cases g <;> rfl

mutual

theorem literal_mapPlaces : (e : Expr) → (e.mapPlaces f).literal = e.literal
  | .constant _ => rfl
  | .tuple es => by rw [mapPlaces, literal, literal, literals_mapPlaces es]
  | .list es => by rw [mapPlaces, literal, literal, literals_mapPlaces es]
  | .set es => by rw [mapPlaces, literal, literal, members_mapPlaces es]
  | .dict items => by rw [mapPlaces, literal, literal, entries_mapPlaces items]
  | .call g args keywords => literal_call_mapPlaces f g args keywords
  | .binary op l r => by
    cases op with
    | add => exact complexSum_mapPlaces f true l r
    | sub => exact complexSum_mapPlaces f false l r
    | _ => rfl
  | .unary op e => signed_mapPlaces f (.unary op e)
  | .name _ | .formatted _ | .member _ _ | .subscript _ _ | .slice _ _ _ | .starred _ | .bool _ _ | .compare _ _
  | .conditional _ _ _ | .lambda _ _ | .named _ _ | .await _ | .yield _ | .yieldFrom _ | .listComp _ _
  | .setComp _ _ | .generator _ _ | .dictComp _ _ _ => rfl

theorem literals_mapPlaces : (es : List Expr) → literals (mapPlacesAll f es) = literals es
  | [] => rfl
  | e :: rest => by rw [mapPlacesAll, literals, literals, literal_mapPlaces e, literals_mapPlaces rest]

theorem members_mapPlaces : (es : List Expr) → {done : List Value} →
    members done (mapPlacesAll f es) = members done es
  | [], _ => rfl
  | e :: rest, _ => by
    rw [mapPlacesAll, members, members, literal_mapPlaces e]
    simp only [members_mapPlaces rest]

theorem entries_mapPlaces : (items : List DictItem) → {done : List (Value × Value)} →
    entries done (mapPlacesItems f items) = entries done items
  | [], _ => rfl
  | .unpack _ :: _, _ => rfl
  | .entry k v :: rest, _ => by
    rw [mapPlacesItems, entries, entries, literal_mapPlaces k, literal_mapPlaces v]
    simp only [entries_mapPlaces rest]

end

variable {e e' : Expr}

/-- Places have no part in what a literal denotes. -/
theorem literal_of_unplaced (same : e.unplaced = e'.unplaced) : e.literal = e'.literal := by
  rw [← literal_mapPlaces (fun _ => .start) e, ← literal_mapPlaces (fun _ => .start) e']
  exact congrArg literal same

/-- The parts of a call of the settings, without the places in it. -/
theorem configCall?_unplaced (e : Expr) : e.unplaced.configCall? = e.configCall?.map fun parts =>
    (mapPlacesAll (fun _ => .start) parts.1, mapPlacesKeywords (fun _ => .start) parts.2) := by
  cases e with
  | call g args keywords =>
    cases g with
    | name n =>
      rw [unplaced, mapPlaces, mapPlaces, configCall?, configCall?]
      split <;> rfl
    | member value a =>
      rw [unplaced, mapPlaces, mapPlaces, configCall?, configCall?]
      split <;> rfl
    | _ => rfl
  | _ => rfl

theorem configCall?_call {g : Expr} (named : g.lastName? = some configName) (args : List Expr) (ks : List Keyword) :
    (call g args ks).configCall? = some (args, ks) := by
  cases g with
  | name n =>
    cases named
    rw [configCall?, if_pos rfl]
  | member value a =>
    cases named
    rw [configCall?, if_pos rfl]
  | _ => cases named

end Expr

end FluentRecords
