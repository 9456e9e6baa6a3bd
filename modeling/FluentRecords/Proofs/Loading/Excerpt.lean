import FluentRecords.Loading.ClassSource
import Mathlib.Data.List.Basic
import Mathlib.Data.List.Infix

/-!
The excerpt that is made of the source of a class. Its margin is the longest text of blanks that all its lines begin
with, lines of blanks aside. So the lines lose the whole indentation of the first one exactly if all of them are
indented like it.
-/

namespace FluentRecords

namespace ClassSource

variable {p s t first : Text} {lines rest : List Text}

/-- The lines of a block from a line on. -/
def blockAt (source : Text) (line : Nat) : List Text :=
  let lines := (Text.splitLines source).drop (line - 1)
  lines.take (blockLength (Source.closedLines ((Text.join [10] lines).map Char.ofNat)))

/-- The source of a class whose block begins in a line. -/
def ofBlock (line : Nat) (block : List Text) : ClassSource :=
  ⟨line, ((block.headD []).takeWhile isSpace).length, Text.join [10] (dedent block) ++ [10]⟩

/-- The source that is found for a qualified name is that of the block in which its declaration begins. -/
theorem find?_eq_some {source path : Text} {m : Module} {found : ClassSource} :
    find? source m path = some found ↔
      ∃ line, lineAmong path [] m.body = some line ∧ found = ofBlock line (blockAt source line) := by
  unfold find?
  simp only [Option.bind_eq_bind, Option.bind_eq_some_iff, Option.some.injEq]
  constructor
  · rintro ⟨line, begins, rfl⟩
    exact ⟨line, begins, rfl⟩
  · rintro ⟨line, begins, rfl⟩
    exact ⟨line, begins, rfl⟩

theorem prefix_common : p <+: common s t ↔ p <+: s ∧ p <+: t := by
  induction p generalizing s t with
  | nil => simp
  | cons c p ih =>
    cases s with
    | nil => simp [common]
    | cons a s =>
      cases t with
      | nil => simp [common]
      | cons b t =>
        by_cases same : a = b
        · subst same
          rw [common, if_pos rfl, List.cons_prefix_cons, List.cons_prefix_cons, List.cons_prefix_cons, ih]
          constructor
          · rintro ⟨rfl, here, there⟩
            exact ⟨⟨rfl, here⟩, rfl, there⟩
          · rintro ⟨⟨rfl, here⟩, -, there⟩
            exact ⟨rfl, here, there⟩
        · rw [common, if_neg same, List.cons_prefix_cons, List.cons_prefix_cons]
          constructor
          · intro none
            have empty := List.prefix_nil.mp none
            cases empty
          · rintro ⟨⟨rfl, _⟩, rfl, _⟩
            exact absurd rfl same

theorem prefix_foldl_common {ts : List Text} : p <+: ts.foldl common s ↔ p <+: s ∧ ∀ t ∈ ts, p <+: t := by
  induction ts generalizing s with
  | nil => simp
  | cons t ts ih => rw [List.foldl_cons, ih, prefix_common, List.forall_mem_cons, and_assoc]

theorem indentation?_eq_some {l : Text} :
    indentation? l = some s ↔ l.all isBlank = false ∧ s = l.takeWhile isBlank := by
  unfold indentation?
  cases l.all isBlank with
  | true => simp
  | false => simp [eq_comm]

/-- What all lines with more than blanks are indented by at least begins the margin. -/
theorem prefix_margin (visible : first.all isBlank = false) : p <+: margin (first :: rest) ↔
    ∀ l ∈ first :: rest, l.all isBlank = false → p <+: l.takeWhile isBlank := by
  have own : indentation? first = some (first.takeWhile isBlank) := indentation?_eq_some.mpr ⟨visible, rfl⟩
  have others : (∀ t ∈ rest.filterMap indentation?, p <+: t) ↔
      ∀ l ∈ rest, l.all isBlank = false → p <+: l.takeWhile isBlank := by
    constructor
    · intro each l member shown
      exact each _ (List.mem_filterMap.mpr ⟨l, member, indentation?_eq_some.mpr ⟨shown, rfl⟩⟩)
    · intro each t member
      obtain ⟨l, inside, indented⟩ := List.mem_filterMap.mp member
      obtain ⟨shown, rfl⟩ := indentation?_eq_some.mp indented
      exact each l inside shown
  unfold margin
  rw [List.filterMap_cons_some own]
  dsimp only
  rw [prefix_foldl_common, others, List.forall_mem_cons]
  exact and_congr_left fun _ => ⟨fun begins _ => begins, fun begins => begins visible⟩

/-- All lines with more than blanks are indented by what the first line begins with. -/
def Aligned (lines : List Text) : Prop :=
  ∀ l ∈ lines, l.all isBlank = false → (lines.headD []).takeWhile isSpace <+: l.takeWhile isBlank

instance (lines : List Text) : Decidable (Aligned lines) :=
  inferInstanceAs (Decidable (∀ l ∈ lines, _ → _))

theorem isSpace_of_isBlank {c : CodePoint} (blank : isBlank c = true) : isSpace c = true := by
  simp only [isBlank, Bool.or_eq_true, beq_iff_eq] at blank
  rcases blank with rfl | rfl <;> rfl

theorem takeWhile_isBlank_begins (l : Text) : l.takeWhile isBlank <+: l.takeWhile isSpace := by
  induction l with
  | nil => exact List.prefix_rfl
  | cons c l ih =>
    cases blank : isBlank c with
    | false => simp [List.takeWhile_cons, blank]
    | true =>
      rw [List.takeWhile_cons, List.takeWhile_cons, blank, isSpace_of_isBlank blank]
      exact List.cons_prefix_cons.mpr ⟨rfl, ih⟩

/-- The margin is part of the indentation of the first line. -/
theorem margin_begins (visible : first.all isBlank = false) :
    margin (first :: rest) <+: first.takeWhile isSpace :=
  ((prefix_margin visible).mp List.prefix_rfl first List.mem_cons_self visible).trans
    (takeWhile_isBlank_begins first)

/-- The margin is all of the indentation of the first line exactly if the other lines are indented like it. -/
theorem margin_length_eq_iff (visible : first.all isBlank = false) :
    (margin (first :: rest)).length = (first.takeWhile isSpace).length ↔ Aligned (first :: rest) := by
  have part : margin (first :: rest) <+: first.takeWhile isSpace := margin_begins visible
  constructor
  · intro same
    have whole : margin (first :: rest) = first.takeWhile isSpace := part.eq_of_length same
    exact (prefix_margin visible).mp (whole ▸ List.prefix_rfl)
  · intro aligned
    exact Nat.le_antisymm part.length_le ((prefix_margin visible).mpr aligned).length_le

end ClassSource

end FluentRecords
