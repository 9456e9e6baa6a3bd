import FluentRecords.Text.Path
import Mathlib.Data.List.Basic

/-!
Paths that are spelled out again. The names of a path hold no slash and say something, so the text of a
path that came from a text leads to the same place.
-/

namespace FluentRecords

namespace FilePath

theorem exists_pieces (t : Text) : ∃ p ps, pieces t = p :: ps := by
  cases t with
  | nil => exact ⟨_, _, rfl⟩
  | cons c rest =>
    rw [pieces]
    split
    · exact ⟨_, _, rfl⟩
    · split
      · exact ⟨_, _, rfl⟩
      · exact ⟨_, _, rfl⟩

theorem pieces_slash (t : Text) : pieces (47 :: t) = [] :: pieces t := by
  obtain ⟨p, ps, first⟩ := exists_pieces t
  rw [pieces, first]
  exact if_pos rfl

theorem pieces_cons {c : CodePoint} (plain : c ≠ 47) {t p : Text} {ps : List Text} (first : pieces t = p :: ps) :
    pieces (c :: t) = (c :: p) :: ps := by
  rw [pieces, first]
  exact if_neg plain

/-- No piece between slashes holds one. -/
theorem not_mem_of_mem_pieces {t piece : Text} (member : piece ∈ pieces t) : 47 ∉ piece := by
  induction t generalizing piece with
  | nil =>
    rw [pieces, List.mem_singleton] at member
    rw [member]
    exact List.not_mem_nil
  | cons c rest ih =>
    obtain ⟨p, ps, first⟩ := exists_pieces rest
    by_cases slash : c = 47
    · rw [slash, pieces_slash] at member
      rcases List.mem_cons.mp member with rfl | later
      · exact List.not_mem_nil
      · exact ih later
    · rw [pieces_cons slash first] at member
      rw [first] at ih
      rcases List.mem_cons.mp member with rfl | later
      · exact List.not_mem_cons_of_ne_of_not_mem (Ne.symm slash) (ih List.mem_cons_self)
      · exact ih (List.mem_cons_of_mem _ later)

theorem pieces_of_not_mem {n : Text} (plain : 47 ∉ n) : pieces n = [n] := by
  induction n with
  | nil => rfl
  | cons c rest ih =>
    exact pieces_cons (List.ne_of_not_mem_cons plain).symm (ih (List.not_mem_of_not_mem_cons plain))

theorem pieces_append_slash {n : Text} (plain : 47 ∉ n) (t : Text) : pieces (n ++ 47 :: t) = n :: pieces t := by
  induction n with
  | nil => exact pieces_slash t
  | cons c rest ih =>
    exact pieces_cons (List.ne_of_not_mem_cons plain).symm (ih (List.not_mem_of_not_mem_cons plain))

/-- Names that are joined by slashes are found between them. -/
theorem pieces_join {ns : List Text} (some : ns ≠ []) (plain : ∀ n ∈ ns, 47 ∉ n) :
    pieces (Text.join [47] ns) = ns := by
  induction ns with
  | nil => exact absurd rfl some
  | cons n rest ih =>
    have first := plain n List.mem_cons_self
    cases rest with
    | nil => exact pieces_of_not_mem first
    | cons n' more =>
      have joined : Text.join [47] (n :: n' :: more) = n ++ 47 :: Text.join [47] (n' :: more) := by
        rw [Text.join, List.append_assoc]
        · rfl
        · exact List.cons_ne_nil _ _
      rw [joined, pieces_append_slash first,
        ih (List.cons_ne_nil _ _) fun n member => plain n (List.mem_cons_of_mem _ member)]

theorem names_slash (t : Text) : (ofText (47 :: t)).names = (ofText t).names := by
  rw [ofText, pieces_slash]
  rfl

theorem isAbsolute_ofText (t : Text) : (ofText t).isAbsolute = (t.head? == some 47) := by
  cases t with
  | nil => rfl
  | cons c rest =>
    by_cases slash : c = 47
    · subst slash
      rw [isAbsolute, ofText, List.takeWhile_cons]
      simp only [beq_self_eq_true, if_true, List.length_cons, List.head?_cons]
      split <;> simp_all
    · simp [isAbsolute, ofText, slash]

theorem resolve_eq (here : Directory) (p : FilePath) :
    p.resolve here = descend (if p.isAbsolute then [] else here) p.names := by
  rw [resolve]
  split
  · rfl
  · rfl

/-- A path that comes from a text. -/
structure Plain (p : FilePath) : Prop where
  root : p.root = [] ∨ p.root = [47] ∨ p.root = [47, 47]
  names : ∀ n ∈ p.names, 47 ∉ n ∧ isSilent n = false

theorem ofText_plain (t : Text) : (ofText t).Plain where
  root := by
    rw [ofText]
    dsimp only
    split
    · exact Or.inl rfl
    · exact Or.inr (Or.inr rfl)
    · exact Or.inr (Or.inl rfl)
  names n member := by
    obtain ⟨piece, said⟩ := List.mem_filter.mp member
    exact ⟨not_mem_of_mem_pieces piece, by simpa using said⟩

theorem Plain.names_join {p : FilePath} (plain : p.Plain) : (ofText (Text.join [47] p.names)).names = p.names := by
  by_cases none : p.names = []
  · rw [none]
    rfl
  · rw [ofText, pieces_join none fun n member => (plain.names n member).1]
    refine List.filter_eq_self.mpr fun n member => ?_
    rw [(plain.names n member).2]
    rfl

theorem Plain.head_join {p : FilePath} (plain : p.Plain) : (Text.join [47] p.names).head? ≠ some 47 := by
  cases names : p.names with
  | nil => exact (Option.some_ne_none 47).symm
  | cons n rest =>
    obtain ⟨unslashed, said⟩ := plain.names n (names ▸ List.mem_cons_self)
    cases n with
    | nil => cases said
    | cons c more =>
      have first : (Text.join [47] ((c :: more) :: rest)).head? = some c := by
        cases rest with
        | nil => rfl
        | cons n' others => rfl
      rw [first]
      exact fun same => List.ne_of_not_mem_cons unslashed (Option.some.inj same).symm

/-- The text of such a path leads where the path leads. -/
theorem Plain.resolve_text {p : FilePath} (plain : p.Plain) (here : Directory) :
    (ofText p.text).resolve here = p.resolve here := by
  rw [resolve_eq, resolve_eq, isAbsolute_ofText]
  have joined := plain.names_join
  unfold text
  by_cases empty : p.root = [] ∧ p.names = []
  · rw [isAbsolute, empty.1, empty.2]
    rfl
  · have spelled : ¬ (p.root.isEmpty && p.names.isEmpty) = true := by
      simpa only [Bool.and_eq_true, List.isEmpty_iff] using empty
    rw [if_neg spelled, isAbsolute]
    rcases plain.root with root | root | root
    · have relative : ((Text.join [47] p.names).head? == some 47) = false :=
        beq_eq_false_iff_ne.mpr plain.head_join
      rw [root, List.nil_append, joined, relative]
      rfl
    · rw [root, List.cons_append, names_slash, List.nil_append, joined]
      rfl
    · rw [root, List.cons_append, List.cons_append, names_slash, names_slash, List.nil_append, joined]
      rfl

theorem mem_of_mem_pieces {t piece : Text} {c : CodePoint} (member : piece ∈ pieces t) (inside : c ∈ piece) :
    c ∈ t := by
  induction t generalizing piece with
  | nil =>
    rw [pieces, List.mem_singleton] at member
    rwa [member] at inside
  | cons d rest ih =>
    obtain ⟨p, ps, first⟩ := exists_pieces rest
    by_cases slash : d = 47
    · rw [slash, pieces_slash] at member
      rcases List.mem_cons.mp member with rfl | later
      · cases inside
      · exact List.mem_cons_of_mem _ (ih later inside)
    · rw [pieces_cons slash first] at member
      rw [first] at ih
      rcases List.mem_cons.mp member with rfl | later
      · rcases List.mem_cons.mp inside with rfl | inside
        · exact List.mem_cons_self
        · exact List.mem_cons_of_mem _ (ih List.mem_cons_self inside)
      · exact List.mem_cons_of_mem _ (ih (List.mem_cons_of_mem _ later) inside)

theorem mem_join {ns : List Text} {c : CodePoint} (member : c ∈ Text.join [47] ns) : c = 47 ∨ ∃ n ∈ ns, c ∈ n := by
  induction ns with
  | nil => cases member
  | cons n rest ih =>
    cases rest with
    | nil => exact Or.inr ⟨n, List.mem_cons_self, member⟩
    | cons n' more =>
      rw [Text.join, List.append_assoc, List.mem_append, List.mem_append, List.mem_singleton] at member
      · rcases member with first | slash | later
        · exact Or.inr ⟨n, List.mem_cons_self, first⟩
        · exact Or.inl slash
        · exact (ih later).imp_right fun ⟨m, among, inside⟩ => ⟨m, List.mem_cons_of_mem _ among, inside⟩
      · exact List.cons_ne_nil _ _

theorem mem_descend {d ns : List Text} {n : Text} (member : n ∈ descend d ns) : n ∈ d ∨ n ∈ ns := by
  induction ns generalizing d with
  | nil => exact Or.inl member
  | cons m rest ih =>
    rw [descend] at member
    split at member
    · exact (ih member).imp (fun inside => List.dropLast_subset _ inside) (List.mem_cons_of_mem _)
    · rcases ih member with before | later
      · rcases List.mem_append.mp before with own | last
        · exact Or.inl own
        · exact Or.inr (List.mem_singleton.mp last ▸ List.mem_cons_self)
      · exact Or.inr (List.mem_cons_of_mem _ later)

/-- A label is spelled with what the path and the directory are spelled with, slashes and dots. -/
theorem mem_label {here : Directory} {t : Text} {c : CodePoint} (member : c ∈ (ofText t).label here) :
    c = 46 ∨ c = 47 ∨ (∃ n ∈ here, c ∈ n) ∨ c ∈ t := by
  have spelled : ∀ n ∈ (ofText t).resolve here, c ∈ n → (∃ n ∈ here, c ∈ n) ∨ c ∈ t := by
    intro n named inside
    have origin : n ∈ here ∨ n ∈ (ofText t).names := by
      rw [resolve_eq] at named
      refine (mem_descend named).imp_left fun start => ?_
      split at start
      · cases start
      · exact start
    rcases origin with base | own
    · exact Or.inl ⟨n, base, inside⟩
    · exact Or.inr (mem_of_mem_pieces (List.mem_filter.mp own).1 inside)
  have joined : ∀ ns : List Text, (∀ n ∈ ns, n ∈ (ofText t).resolve here) → c ∈ Text.join [47] ns →
      c = 47 ∨ (∃ n ∈ here, c ∈ n) ∨ c ∈ t := by
    intro ns names inside
    exact (mem_join inside).imp_right fun ⟨n, among, found⟩ => spelled n (names n among) found
  rw [label] at member
  split at member
  · rw [text] at member
    split at member
    · exact Or.inl (List.mem_singleton.mp member)
    · exact Or.inr (joined _ (fun n among => List.mem_of_mem_drop among) member)
  · rcases List.mem_cons.mp member with slash | rest
    · exact Or.inr (Or.inl slash)
    · exact Or.inr (joined _ (fun n among => among) rest)

/-- A label holds no line break if neither the path nor the directory does. -/
theorem label_unbroken {here : Directory} {t : Text} (path : ∀ c ∈ t, c ≠ 10 ∧ c ≠ 13)
    (directory : ∀ n ∈ here, ∀ c ∈ n, c ≠ 10 ∧ c ≠ 13) : ∀ c ∈ (ofText t).label here, c ≠ 10 ∧ c ≠ 13 := by
  intro c member
  rcases mem_label member with rfl | rfl | ⟨n, among, inside⟩ | own
  · decide
  · decide
  · exact directory n among c inside
  · exact path c own

end FilePath

end FluentRecords
