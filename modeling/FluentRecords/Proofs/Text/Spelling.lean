import FluentRecords.Proofs.GeneratedFile
import FluentRecords.Proofs.Text.Path
import Mathlib.Logic.Relation

/-!
Spellings of a path. Pieces that say nothing and names that are left again with `..` lead nowhere, so what a
path is called, and the file generated for it, depend on where it leads alone. Below the current directory
it is called by names only, and that spelling leads to the same place.
-/

namespace FluentRecords

namespace FilePath

/-- What can name an entry of a directory. -/
structure IsName (n : Text) : Prop where
  unslashed : 47 ∉ n
  said : isSilent n = false
  forward : n ≠ [46, 46]

/-- A piece that says nothing, or a name that is left again, is taken out. -/
inductive Shortens : List Text → List Text → Prop
  | silent (before after : List Text) {piece : Text} :
      isSilent piece = true → Shortens (before ++ piece :: after) (before ++ after)
  | back (before after : List Text) {name : Text} :
      isSilent name = false → name ≠ [46, 46] → Shortens (before ++ name :: [46, 46] :: after) (before ++ after)

/-- Two texts spell one path: both from the root or both from the current directory, with pieces between
the slashes that differ by what leads nowhere. -/
structure Respelled (t t' : Text) : Prop where
  rooted : t.head? = some 47 ↔ t'.head? = some 47
  pieces : Relation.EqvGen Shortens (pieces t) (pieces t')

/-- The path leads below the directory, seen from it. -/
def Below (here : Directory) (p : FilePath) : Prop :=
  ∃ names, names ≠ [] ∧ p.resolve here = here ++ names

theorem descend_append (d : Directory) (ms ns : List Text) :
    descend d (ms ++ ns) = descend (descend d ms) ns := by
  induction ms generalizing d with
  | nil => rfl
  | cons m ms ih =>
    rw [List.cons_append, descend, descend]
    split
    · exact ih _
    · exact ih _

theorem descend_back {name : Text} (forward : name ≠ [46, 46]) (d : Directory) (ns : List Text) :
    descend d (name :: [46, 46] :: ns) = descend d ns := by
  rw [descend, if_neg forward, descend, if_pos rfl, List.dropLast_concat]

theorem descend_forward {ns : List Text} (forward : ∀ n ∈ ns, n ≠ [46, 46]) (d : Directory) :
    descend d ns = d ++ ns := by
  induction ns generalizing d with
  | nil => exact (List.append_nil d).symm
  | cons n ns ih =>
    rw [descend, if_neg (forward n List.mem_cons_self), ih fun m later => forward m (List.mem_cons_of_mem _ later)]
    exact List.append_assoc d [n] ns

/-- Whatever holds of the directory's names and of the names that lead on holds of the names reached. -/
theorem descend_all {P : Text → Prop} {d ns : List Text} (start : ∀ n ∈ d, P n)
    (on : ∀ n ∈ ns, n ≠ [46, 46] → P n) : ∀ n ∈ descend d ns, P n := by
  induction ns generalizing d with
  | nil => exact start
  | cons m ns ih =>
    have later : ∀ n ∈ ns, n ≠ [46, 46] → P n := fun n member => on n (List.mem_cons_of_mem _ member)
    rw [descend]
    split
    · exact ih (fun n member => start n (List.dropLast_subset _ member)) later
    case isFalse forward =>
      refine ih (fun n member => ?_) later
      rcases List.mem_append.mp member with before | last
      · exact start n before
      · rw [List.mem_singleton.mp last]
        exact on m List.mem_cons_self forward

theorem Shortens.descend_said {ps qs : List Text} (shorter : Shortens ps qs) (d : Directory) :
    descend d (ps.filter (!isSilent ·)) = descend d (qs.filter (!isSilent ·)) := by
  cases shorter with
  | silent before after silent =>
    simp only [List.filter_append, List.filter_cons, silent, Bool.not_true, Bool.false_eq_true, if_false]
  | back before after said forward =>
    have back : isSilent [46, 46] = false := by decide
    simp only [List.filter_append, List.filter_cons, said, back, Bool.not_false, if_true, descend_append,
      descend_back forward]

/-- Spellings of one path lead to one place. -/
theorem Respelled.resolve_eq {t t' : Text} (same : Respelled t t') (here : Directory) :
    (ofText t).resolve here = (ofText t').resolve here := by
  have said : ∀ ps qs, Relation.EqvGen Shortens ps qs → ∀ d,
      descend d (ps.filter (!isSilent ·)) = descend d (qs.filter (!isSilent ·)) := by
    intro ps qs equivalent d
    induction equivalent with
    | rel _ _ shorter => exact shorter.descend_said d
    | refl _ => rfl
    | symm _ _ _ ih => exact ih.symm
    | trans _ _ _ _ _ first second => exact first.trans second
  have rooted : (ofText t).isAbsolute = (ofText t').isAbsolute := by
    rw [isAbsolute_ofText, isAbsolute_ofText, Bool.eq_iff_iff, beq_iff_eq, beq_iff_eq]
    exact same.rooted
  rw [FilePath.resolve_eq, FilePath.resolve_eq, rooted]
  exact said _ _ same.pieces _

variable {here : Directory}

theorem Plain.resolve_named {p : FilePath} (plain : p.Plain) (named : ∀ n ∈ here, IsName n) :
    ∀ n ∈ p.resolve here, IsName n := by
  rw [FilePath.resolve_eq]
  refine descend_all (fun n member => ?_) fun n member forward => ⟨(plain.names n member).1,
    (plain.names n member).2, forward⟩
  split at member
  · cases member
  · exact named n member

theorem plain_of_named {root : Text} (rooted : root = [] ∨ root = [47]) {names : List Text}
    (named : ∀ n ∈ names, IsName n) : (FilePath.mk root names).Plain where
  root := rooted.imp_right Or.inl
  names n member := ⟨(named n member).unslashed, (named n member).said⟩

/-- What a path is called leads where the path leads. -/
theorem resolve_label (named : ∀ n ∈ here, IsName n) (t : Text) :
    (ofText ((ofText t).label here)).resolve here = (ofText t).resolve here := by
  have reached := (ofText_plain t).resolve_named named
  have forward : ∀ n ∈ (ofText t).resolve here, n ≠ [46, 46] := fun n member => (reached n member).forward
  rw [label]
  split
  case isTrue inside =>
    obtain ⟨names, whole⟩ := List.isPrefixOf_iff_prefix.mp inside
    rw [← whole] at reached forward ⊢
    rw [List.drop_left, (plain_of_named (Or.inl rfl) fun n member =>
      reached n (List.mem_append_right _ member)).resolve_text here]
    exact descend_forward (fun n member => forward n (List.mem_append_right _ member)) here
  case isFalse =>
    have absolute : absoluteText ((ofText t).resolve here) = (FilePath.mk [47] ((ofText t).resolve here)).text := rfl
    rw [absolute, (plain_of_named (Or.inr rfl) reached).resolve_text here]
    exact descend_forward forward []

/-- Below the current directory a path is called by the names that lead there. -/
theorem Below.label_named {t : Text} (named : ∀ n ∈ here, IsName n) (below : Below here (ofText t)) :
    (ofText ((ofText t).label here)).isAbsolute = false ∧ ∀ n ∈ pieces ((ofText t).label here), IsName n := by
  obtain ⟨names, some, reached⟩ := below
  have all : ∀ n ∈ names, IsName n := by
    intro n member
    refine (ofText_plain t).resolve_named named n ?_
    rw [reached]
    exact List.mem_append_right _ member
  have called : (ofText t).label here = Text.join [47] names := by
    rw [label, reached, if_pos (List.isPrefixOf_iff_prefix.mpr (List.prefix_append _ _)), List.drop_left, text]
    exact if_neg fun empty => some (List.isEmpty_iff.mp empty)
  rw [called, isAbsolute_ofText, pieces_join some fun n member => (all n member).unslashed]
  exact ⟨beq_eq_false_iff_ne.mpr (plain_of_named (Or.inl rfl) all).head_join, all⟩

end FilePath

namespace GeneratedFile

open FilePath

/-- A generated file depends on its path by where the path leads. -/
theorem render_of_resolve_eq {here : Directory} {p q : FilePath} (same : p.resolve here = q.resolve here)
    (settings : Settings) (source : Text) : render here p settings source = render here q settings source := by
  rw [render, render, label, label, same]

/-- A generated file does not depend on how its path is spelled. Below the current directory the header calls
the path by names alone, from the current directory on, and the file generated for that spelling is the same. -/
theorem render_respelled {here : Directory} (named : ∀ n ∈ here, IsName n) (settings : Settings) (source : Text) :
    (∀ t t', Respelled t t' →
      render here (ofText t) settings source = render here (ofText t') settings source) ∧
    ∀ t, Below here (ofText t) →
      (∀ text, render here (ofText t) settings source = .ok text →
        header ((ofText t).label here) (digest settings (bytes source)) <+: text) ∧
      (ofText ((ofText t).label here)).isAbsolute = false ∧
      (∀ piece ∈ pieces ((ofText t).label here), piece ≠ [46] ∧ piece ≠ [46, 46]) ∧
      render here (ofText ((ofText t).label here)) settings source = render here (ofText t) settings source := by
  refine ⟨fun t t' same => render_of_resolve_eq (same.resolve_eq here) settings source, fun t below => ?_⟩
  obtain ⟨relative, names⟩ := below.label_named named
  refine ⟨fun text rendered => ?_, relative, fun piece member => ?_, ?_⟩
  · obtain ⟨_, body, _, _, rfl⟩ := render_eq_ok.mp rendered
    exact List.prefix_append _ _
  · refine ⟨fun dot => ?_, (names piece member).forward⟩
    have said := (names piece member).said
    rw [dot] at said
    cases said
  · exact render_of_resolve_eq (resolve_label named t) settings source

namespace Samples

/-- A current directory. -/
def work : Directory :=
  ["work", "here"]

/-- A path below it, by a detour. -/
def detour : Text :=
  "./pkg//sub/../models.py"

/-- A record module. -/
def models : Text :=
  "@derive_builder\nclass A:\n    x: int\n"

end Samples

open GeneratedFile.Samples in
theorem render_detour : (∀ n ∈ work, IsName n) ∧ Respelled detour "pkg/models.py" ∧
    Below work (ofText detour) ∧ (ofText detour).label work = "pkg/models.py" ∧
    render work (ofText detour) .default models = render work (ofText "pkg/models.py") .default models ∧
    render work (ofText ((ofText detour).label work)) .default models =
      render work (ofText detour) .default models := by
  have named : ∀ n ∈ work, IsName n := by
    have decided : ∀ n ∈ work, 47 ∉ n ∧ isSilent n = false ∧ n ≠ [46, 46] := by decide
    exact fun n member => ⟨(decided n member).1, (decided n member).2.1, (decided n member).2.2⟩
  have same : Respelled detour "pkg/models.py" := by
    have split : pieces detour = [] ++ [46] :: [Text.ofString "pkg", [], "sub", [46, 46], "models.py"] := by decide
    refine ⟨by decide, ?_⟩
    rw [split]
    refine .trans _ _ _ (.rel _ _ (.silent _ _ rfl)) ?_
    refine .trans _ _ _ (.rel _ _ (.silent [Text.ofString "pkg"] ["sub", [46, 46], "models.py"] rfl)) ?_
    exact .rel _ _ (.back [Text.ofString "pkg"] ["models.py"] (by decide) (by decide))
  have below : Below work (ofText detour) := ⟨["pkg", "models.py"], by decide, by decide⟩
  have apart := render_respelled named .default models
  exact ⟨named, same, below, by decide, apart.1 _ _ same, (apart.2 _ below).2.2.2⟩

end GeneratedFile

end FluentRecords
