import FluentRecords.Proofs.Text.CharacterTables

/-!
Normal forms of identifiers. Normalisation puts code points that an identifier may hold in the place of others, and no
mark is moved to the front; so the normal form of an identifier is one.
-/

namespace FluentRecords

namespace Text

theorem isStart_of_listed {low high c : Nat} (listed : (startRanges.any fun r => r.1 ≤ low && high ≤ r.2) = true)
    (large : 0x80 ≤ low) (above : low ≤ c) (below : c ≤ high) : isStart c = true := by
  obtain ⟨⟨(first : Nat), (last : Nat)⟩, member, around⟩ := List.any_eq_true.mp listed
  have bounds : first ≤ low ∧ high ≤ last := by
    simpa only [Bool.and_eq_true, decide_eq_true_eq] using around
  have inside : startRanges.contains c = true := by
    refine List.any_eq_true.mpr ⟨_, member, ?_⟩
    simp only [Bool.and_eq_true, decide_eq_true_eq]
    exact ⟨Nat.le_trans bounds.1 above, Nat.le_trans below bounds.2⟩
  have wide : ¬ c < 0x80 := Nat.not_lt.mpr (Nat.le_trans large above)
  rw [isStart, if_neg wide, inside]

theorem isStart_of_jamo {c : Nat} (above : 0x1100 ≤ c) (below : c ≤ 0x11C2) : isStart c = true :=
  isStart_of_listed hangul_listed.1 (by decide) above below

theorem isStart_of_hangul {c : Nat} (above : 0xAC00 ≤ c) (below : c ≤ 0xD7A3) : isStart c = true :=
  isStart_of_listed hangul_listed.2 (by decide) above below

/-- What may begin an identifier is no mark. -/
theorem combiningClass_of_isStart {c : Nat} (start : isStart c = true) : combiningClass c = 0 := by
  unfold combiningClass
  split
  · rfl
  · rename_i large
    cases found : combiningClasses.find? fun e => e.1.1 ≤ c && c ≤ e.1.2 with
    | none => rfl
    | some e =>
      obtain ⟨⟨(low : Nat), (high : Nat)⟩, cc⟩ := e
      have bounds : low ≤ c ∧ c ≤ high := by simpa using List.find?_some found
      have clear := List.all_eq_true.mp combiningClasses_clear _ (List.mem_of_find?_eq_some found)
      have unset := testBit_of_isClearIn clear bounds.1 bounds.2
      have wide : ¬ c < 0x80 := fun small => large (Nat.lt_trans small (by decide))
      rw [isStart_eq_by, isStartBy, if_neg wide, unset] at start
      cases start

theorem isIdentifier_iff {t : Text} :
    isIdentifier t = true ↔ t.head?.any isStart = true ∧ t.all isContinue = true := by
  cases t with
  | nil => simp [isIdentifier]
  | cons c rest =>
    simp only [isIdentifier, List.head?_cons, Option.any_some, List.all_cons, Bool.and_eq_true]
    constructor
    · rintro ⟨start, further⟩
      exact ⟨start, isContinue_of_isStart start, further⟩
    · rintro ⟨start, -, further⟩
      exact ⟨start, further⟩

theorem isIdentifier_append_iff {s t : Text} (nonempty : s ≠ []) :
    isIdentifier (s ++ t) = true ↔ isIdentifier s = true ∧ t.all isContinue = true := by
  obtain ⟨c, rest, rfl⟩ := List.exists_cons_of_ne_nil nonempty
  simp only [List.cons_append, isIdentifier, List.all_append, Bool.and_eq_true, and_assoc]

theorem replaces_iff {s t : Text} :
    replaces isStart isContinue s t = true ↔
      (s.all isContinue = true → t.all isContinue = true) ∧
        (s.head?.any isStart = true → t.head?.any isStart = true) := by
  unfold replaces
  cases s.all isContinue <;> cases s.head?.any isStart <;> simp

theorem replaces_self (t : Text) : replaces isStart isContinue t t = true :=
  replaces_iff.mpr ⟨id, id⟩

theorem replaces_of_isStart {s t : Text} (nonempty : t ≠ []) (start : t.all isStart = true) :
    replaces isStart isContinue s t = true := by
  obtain ⟨c, rest, rfl⟩ := List.exists_cons_of_ne_nil nonempty
  have each := List.all_eq_true.mp start
  have further : (c :: rest).all isContinue = true :=
    List.all_eq_true.mpr fun d member => isContinue_of_isStart (each d member)
  exact replaces_iff.mpr ⟨fun _ => further, fun _ => each c List.mem_cons_self⟩

theorem decomposeHangul_isStart {c : Nat} (above : 0xAC00 ≤ c) (below : c ≤ 0xD7A3) :
    (decomposeHangul c).all isStart = true := by
  have consonant : isStart (0x1100 + (c - 0xAC00) / 588) = true :=
    isStart_of_jamo (by omega) (by omega)
  have vowel : isStart (0x1161 + (c - 0xAC00) % 588 / 28) = true :=
    isStart_of_jamo (by omega) (by omega)
  have last : isStart (0x11A7 + (c - 0xAC00) % 28) = true :=
    isStart_of_jamo (by omega) (by omega)
  simp only [decomposeHangul]
  split <;> simp [consonant, vowel, last]

theorem decomposeHangul_ne_nil (c : Nat) : decomposeHangul c ≠ [] := by
  simp only [decomposeHangul]
  split <;> simp

/-- The decomposition of a code point can be put in its place. -/
theorem decompose_replaces (c : Nat) : replaces isStart isContinue [c] (decompose c) = true := by
  unfold decompose
  split
  · exact replaces_self _
  · split
    · rename_i hangul
      simp only [Bool.and_eq_true, decide_eq_true_eq] at hangul
      exact replaces_of_isStart (decomposeHangul_ne_nil c) (decomposeHangul_isStart hangul.1 hangul.2)
    · cases found : decompositions.find? fun e => e.1 == c with
      | none => exact replaces_self _
      | some e =>
        have same : e.1 = c := by simpa using List.find?_some found
        have listed := List.mem_of_find?_eq_some found
        rw [← same]
        exact List.all_eq_true.mp decompositions_replace e listed

/-- The composite of two code points can be put in their place. -/
theorem compose?_replaces {a b c : Nat} (found : compose? a b = some c) :
    replaces isStart isContinue [a, b] [c] = true := by
  unfold compose? at found
  split at found
  · rename_i bounds
    have bounds : ((0x1100 ≤ a ∧ a ≤ 0x1112) ∧ 0x1161 ≤ b) ∧ b ≤ 0x1175 := by
      simpa only [Bool.and_eq_true, decide_eq_true_eq] using bounds
    obtain rfl := Option.some.inj found
    have start : isStart (0xAC00 + ((a - 0x1100) * 21 + (b - 0x1161)) * 28) = true :=
      isStart_of_hangul (by omega) (by omega)
    exact replaces_of_isStart (List.cons_ne_nil _ _) (by simpa using start)
  · split at found
    · rename_i bounds
      have bounds : (((0xAC00 ≤ a ∧ a ≤ 0xD7A3) ∧ (a - 0xAC00) % 28 = 0) ∧ 0x11A8 ≤ b) ∧ b ≤ 0x11C2 := by
        simpa only [Bool.and_eq_true, decide_eq_true_eq] using bounds
      obtain rfl := Option.some.inj found
      have start : isStart (a + (b - 0x11A7)) = true := isStart_of_hangul (by omega) (by omega)
      exact replaces_of_isStart (List.cons_ne_nil _ _) (by simpa using start)
    · obtain ⟨e, listed, rfl⟩ := Option.map_eq_some_iff.mp found
      have same : e.1 = [a, b] := by simpa using List.find?_some listed
      have member := List.mem_of_find?_eq_some listed
      rw [← same]
      exact List.all_eq_true.mp compositions_replace e member

theorem all_flatMap_decompose {t : Text} (further : t.all isContinue = true) :
    (t.flatMap decompose).all isContinue = true := by
  rw [List.all_flatMap, List.all_eq_true]
  intro c member
  have own : [c].all isContinue = true := by simpa using List.all_eq_true.mp further c member
  exact (replaces_iff.mp (decompose_replaces c)).1 own

theorem isIdentifier_flatMap_decompose {t : Text} (identifier : isIdentifier t = true) :
    isIdentifier (t.flatMap decompose) = true := by
  obtain ⟨start, further⟩ := isIdentifier_iff.mp identifier
  refine isIdentifier_iff.mpr ⟨?_, all_flatMap_decompose further⟩
  cases t with
  | nil => cases start
  | cons c rest =>
    have first := (replaces_iff.mp (decompose_replaces c)).2 start
    cases shape : decompose c with
    | nil => rw [shape] at first; cases first
    | cons d others => simpa only [List.flatMap_cons, shape, List.cons_append, List.head?_cons] using first

/-- A mark that is sorted into an identifier does not come to stand in front of it. -/
theorem isIdentifier_insertMark {c : CodePoint} {cc : Nat} {done : List CodePoint}
    (identifier : isIdentifier done.reverse = true) (further : isContinue c = true) :
    isIdentifier (insertMark c cc done).reverse = true := by
  induction done with
  | nil => cases identifier
  | cons d rest ih =>
    have own : [c].all isContinue = true := by simpa using further
    unfold insertMark
    split
    · rename_i passes
      rw [List.reverse_cons] at identifier ⊢
      cases rest with
      | nil =>
        -- The code point in front is no mark, so that nothing passes it.
        have start : isStart d = true := by simpa [isIdentifier] using identifier
        rw [combiningClass_of_isStart start] at passes
        exact absurd passes (Nat.not_lt_zero cc)
      | cons e others =>
        obtain ⟨inner, last⟩ := (isIdentifier_append_iff (by simp)).mp identifier
        exact isIdentifier_append (ih inner) last
    · rw [List.reverse_cons]
      exact isIdentifier_append identifier own

theorem isIdentifier_reorder {t : Text} (identifier : isIdentifier t = true) : isIdentifier (reorder t) = true := by
  cases t with
  | nil => cases identifier
  | cons c rest =>
    obtain ⟨start, further⟩ := Bool.and_eq_true_iff.mp identifier
    have first : isIdentifier [c].reverse = true := by simpa [isIdentifier] using start
    simp only [reorder, List.foldl_cons, combiningClass_of_isStart start, if_true]
    -- What was sorted so far is kept in reverse, and it is an identifier at every step.
    clear identifier
    generalize [c] = done at first ⊢
    induction rest generalizing done with
    | nil => exact first
    | cons d rest ih =>
      obtain ⟨next, further⟩ := Bool.and_eq_true_iff.mp further
      rw [List.foldl_cons]
      refine ih further _ ?_
      split
      · rw [List.reverse_cons]
        exact isIdentifier_append first (by simpa using next)
      · exact isIdentifier_insertMark first next

/-- A code point behind a starter is composed with it, or it is a further starter, or a mark that stays. -/
theorem composeFrom_cons (c d : CodePoint) (between : List CodePoint) (rest : Text) :
    (∃ s, compose? c d = some s ∧ composeFrom c between (d :: rest) = composeFrom s between rest) ∨
      composeFrom c between (d :: rest) = c :: (between.reverse ++ composeFrom d [] rest) ∨
      composeFrom c between (d :: rest) = composeFrom c (d :: between) rest := by
  rw [composeFrom.eq_def]
  dsimp only
  split
  · rename_i s found
    exact Or.inl ⟨s, (Option.ite_none_left_eq_some.mp found).2, rfl⟩
  · split
    · exact Or.inr (Or.inl rfl)
    · exact Or.inr (Or.inr rfl)

theorem all_composeFrom {c : CodePoint} {between rest : List CodePoint} (own : isContinue c = true)
    (marks : between.all isContinue = true) (further : rest.all isContinue = true) :
    (composeFrom c between rest).all isContinue = true := by
  induction rest generalizing c between with
  | nil => simpa [composeFrom, own] using marks
  | cons d rest ih =>
    obtain ⟨next, further⟩ := Bool.and_eq_true_iff.mp further
    rcases composeFrom_cons c d between rest with ⟨s, composed, same⟩ | same | same
    · have both : [c, d].all isContinue = true := by simp [own, next]
      have one := (replaces_iff.mp (compose?_replaces composed)).1 both
      exact same ▸ ih (by simpa using one) marks further
    · have later := ih next List.all_nil further
      rw [same]
      simpa [own, later] using marks
    · exact same ▸ ih own (by simp [next, marks]) further

theorem isIdentifier_composeFrom {c : CodePoint} {between rest : List CodePoint} (start : isStart c = true)
    (marks : between.all isContinue = true) (further : rest.all isContinue = true) :
    isIdentifier (composeFrom c between rest) = true := by
  refine isIdentifier_iff.mpr ⟨?_, all_composeFrom (isContinue_of_isStart start) marks further⟩
  induction rest generalizing c between with
  | nil => exact start
  | cons d rest ih =>
    obtain ⟨next, further⟩ := Bool.and_eq_true_iff.mp further
    rcases composeFrom_cons c d between rest with ⟨s, composed, same⟩ | same | same
    · have one := (replaces_iff.mp (compose?_replaces composed)).2 start
      exact same ▸ ih (by simpa using one) marks further
    · exact same ▸ start
    · exact same ▸ ih start (by simp [next, marks]) further

/-- The normal form of an identifier is one. -/
theorem isIdentifier_normalize {t : Text} (identifier : isIdentifier t = true) : isIdentifier (normalize t) = true := by
  unfold normalize
  split
  · exact identifier
  · have ordered := isIdentifier_reorder (isIdentifier_flatMap_decompose identifier)
    cases shape : reorder (t.flatMap decompose) with
    | nil => rw [shape] at ordered; cases ordered
    | cons c rest =>
      rw [shape] at ordered
      obtain ⟨start, further⟩ := Bool.and_eq_true_iff.mp ordered
      rw [compose, combiningClass_of_isStart start, if_pos rfl]
      exact isIdentifier_composeFrom start List.all_nil further

end Text

end FluentRecords
