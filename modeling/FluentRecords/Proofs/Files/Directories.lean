import FluentRecords.Proofs.Files.Tree

/-!
Directories that are made above a path. Nothing is made where the path leads to something, and where nothing is
there at least one directory is made, whether or not all of them can be; each is one of those that the path
names.
-/

namespace FluentRecords

namespace FilePath

/-- The paths above a path, itself included, name less of what it names. -/
theorem Plain.of_subset {root : Text} {names less : List Text} (plain : (FilePath.mk root names).Plain)
    (subset : less ⊆ names) : (FilePath.mk root less).Plain where
  root := plain.root
  names n member := plain.names n (subset member)

theorem Plain.parent {p : FilePath} (plain : p.Plain) : p.parent.Plain :=
  Plain.of_subset plain (List.dropLast_subset p.names)

end FilePath

namespace FileTree

open FilePath

variable {t t' : FileTree} {here place : Directory} {path root : Text} {names above : List Text} {n : Text}

theorem step_silent (stands : t.get? place = some .directory) {piece : Text} (silent : isSilent piece = true) :
    t.step place piece = .ok place := by
  rw [step, stands]
  exact congrArg Except.ok (if_pos silent)

theorem step_missing {piece : Text} : t.step place piece = .error .missing ↔ t.get? place = none := by
  rw [step]
  cases t.get? place with
  | none => simp
  | some e => cases e <;> simp

theorem steps_join (stands : t.get? place = some .directory) (unslashed : ∀ n ∈ names, 47 ∉ n) :
    (pieces (Text.join [47] names)).foldlM t.step place = names.foldlM t.step place := by
  by_cases none : names = []
  · rw [none]
    change t.step place [] >>= pure = _
    rw [step_silent stands rfl]
    rfl
  · rw [pieces_join none unslashed]

/-- A path leads where its names lead one after the other. -/
theorem locate_text (inside : t.get? here = some .directory) {p : FilePath} (plain : p.Plain) :
    t.locate here p.text = p.names.foldlM t.step (if p.isAbsolute then [] else here) := by
  have unslashed := fun n member => (plain.names n member).1
  have fromRoot : ∀ rest, (pieces (47 :: rest)).foldlM t.step [] = (pieces rest).foldlM t.step [] := by
    intro rest
    rw [pieces_slash, List.foldlM_cons, step_silent (t.get?_nil) rfl]
    rfl
  by_cases empty : p.root = [] ∧ p.names = []
  · have dot : p.text = [46] := by
      rw [text, empty.1, empty.2]
      rfl
    have relative : p.isAbsolute = false := by
      rw [isAbsolute, empty.1]
      rfl
    rw [dot, empty.2, relative]
    change t.step here [46] >>= pure = pure here
    rw [step_silent inside rfl]
    rfl
  · have spelled : p.text = p.root ++ Text.join [47] p.names := by
      rw [text, if_neg (by simpa only [Bool.and_eq_true, List.isEmpty_iff] using empty)]
    rw [spelled]
    rcases plain.root with root | root | root
    · have joins : Text.join [47] p.names ≠ [] := by
        intro nothing
        have joined := plain.names_join
        rw [nothing] at joined
        exact empty ⟨root, joined.symm⟩
      have relative : ((Text.join [47] p.names).head? == some 47) = false := beq_eq_false_iff_ne.mpr plain.head_join
      rw [isAbsolute, root, List.nil_append, locate, if_neg (fun nothing => joins (List.isEmpty_iff.mp nothing)), relative]
      exact steps_join inside unslashed
    · rw [isAbsolute, root]
      change (pieces (47 :: Text.join [47] p.names)).foldlM t.step [] = _
      rw [fromRoot, steps_join t.get?_nil unslashed]
      rfl
    · rw [isAbsolute, root]
      change (pieces (47 :: 47 :: Text.join [47] p.names)).foldlM t.step [] = _
      rw [fromRoot, fromRoot, steps_join t.get?_nil unslashed]
      rfl

/-- A path with one name more leads one step further. -/
theorem locate_concat (inside : t.get? here = some .directory) (plain : (FilePath.mk root (names ++ [n])).Plain) :
    t.locate here (FilePath.mk root (names ++ [n])).text =
      t.locate here (FilePath.mk root names).text >>= fun place => t.step place n := by
  have above : (FilePath.mk root names).Plain := plain.of_subset (List.subset_append_left _ _)
  rw [locate_text inside plain, locate_text inside above, List.foldlM_append]
  refine congrArg _ (funext fun place => ?_)
  rw [List.foldlM_cons]
  cases t.step place n <;> rfl

theorem find_eq_error {cause : FileError} : t.find here path = .error cause ↔
    t.locate here path = .error cause ∨
      cause = .missing ∧ ∃ place, t.locate here path = .ok place ∧ t.get? place = none := by
  rw [find, bind_eq_error]
  refine or_congr_right ⟨?_, ?_⟩
  · rintro ⟨place, leads, failed⟩
    cases stands : t.get? place with
    | none =>
      rw [stands] at failed
      cases failed
      exact ⟨rfl, place, leads, stands⟩
    | some e =>
      rw [stands] at failed
      cases failed
  · rintro ⟨rfl, place, leads, none⟩
    exact ⟨place, leads, by rw [none]⟩

/-- Where a path does not even lead, nothing stands at the path above it. -/
theorem find_above (inside : t.get? here = some .directory) (plain : (FilePath.mk root (names ++ [n])).Plain)
    (lost : t.locate here (FilePath.mk root (names ++ [n])).text = .error .missing) :
    t.find here (FilePath.mk root names).text = .error .missing := by
  rw [locate_concat inside plain, bind_eq_error] at lost
  rcases lost with lost | ⟨place, leads, none⟩
  · exact find_eq_error.mpr (Or.inl lost)
  · exact find_eq_error.mpr (Or.inr ⟨rfl, place, leads, step_missing.mp none⟩)

theorem ensureDirectory_of_directory (found : t.find here path = .ok .directory) :
    t.ensureDirectory here path = .ok t := by
  obtain ⟨place, leads, stands⟩ := find_eq_ok.mp found
  have present : t.makeDirectory here path = .error ⟨.present, path⟩ := by
    rw [makeDirectory, leads]
    exact if_pos (by rw [stands]; rfl)
  rw [ensureDirectory, present]
  exact if_pos (by rw [isDirectory, found]; rfl)

theorem ensureDirectory_blocked (there : t.find here path ≠ .error .missing)
    (other : t.find here path ≠ .ok .directory) :
    ∃ f, t.ensureDirectory here path = .error f ∧ f.error ≠ .missing := by
  have noDirectory : t.isDirectory here path = false := by
    rw [isDirectory]
    split
    · rename_i directory
      exact absurd directory other
    · rfl
  have failed : ∃ f, t.makeDirectory here path = .error f ∧ f.error ≠ .missing := by
    cases found : t.find here path with
    | ok e =>
      obtain ⟨place, leads, stands⟩ := find_eq_ok.mp found
      refine ⟨⟨.present, path⟩, ?_, fun no => by cases no⟩
      rw [makeDirectory, leads]
      exact if_pos (by rw [stands]; rfl)
    | error cause =>
      have different : cause ≠ .missing := fun same => there (same ▸ found)
      have lost := (find_eq_error.mp found).resolve_right fun both => different both.1
      exact ⟨⟨cause, path⟩, by rw [makeDirectory, lost], different⟩
  obtain ⟨f, failed, different⟩ := failed
  refine ⟨f, ?_, different⟩
  rw [ensureDirectory, failed, noDirectory]
  simp

/-- Where nothing is, a directory is made, unless something above it is missing too. -/
theorem ensureDirectory_of_missing (absent : t.find here path = .error .missing) :
    (∃ t', t.ensureDirectory here path = .ok t' ∧ ∃ place, t.get? place = none ∧ t'.get? place = some .directory) ∨
      t.locate here path = .error .missing ∧ t.ensureDirectory here path = .error ⟨.missing, path⟩ := by
  rcases find_eq_error.mp absent with lost | ⟨_, place, leads, none⟩
  · refine Or.inr ⟨lost, ?_⟩
    rw [ensureDirectory, makeDirectory, lost]
    rfl
  · have below : place ≠ [] := by
      rintro rfl
      cases none
    refine Or.inl ⟨t.put place .directory, ?_, place, none, get?_put below⟩
    have made : t.makeDirectory here path = .ok (t.put place .directory) := by
      rw [makeDirectory, leads]
      exact if_neg (by rw [none]; exact Bool.false_ne_true)
    rw [ensureDirectory, made]

/-- Nothing is made where a path leads to something, and it passes if that is a directory. -/
theorem ensureAll_of_found (there : t.find here (FilePath.mk root names.reverse).text ≠ .error .missing) :
    (ensureAll here root t names).1 = t ∧ ((ensureAll here root t names).2 = none ↔
      t.find here (FilePath.mk root names.reverse).text = .ok .directory) := by
  by_cases directory : t.find here (FilePath.mk root names.reverse).text = .ok .directory
  · have passed := ensureDirectory_of_directory directory
    have done : ensureAll here root t names = (t, none) := by
      cases names with
      | nil =>
        rw [ensureAll]
        exact congrArg (ensureAll.settle · t) passed
      | cons n above =>
        rw [ensureAll]
        rw [passed]
    rw [done]
    exact ⟨rfl, iff_of_true rfl directory⟩
  · obtain ⟨f, failed, different⟩ := ensureDirectory_blocked there directory
    have done : ensureAll here root t names = (t, some f) := by
      cases names with
      | nil =>
        rw [ensureAll]
        exact congrArg (ensureAll.settle · t) failed
      | cons n above =>
        rw [ensureAll]
        rw [failed]
        exact if_pos different
    rw [done]
    exact ⟨rfl, iff_of_false (fun none => by cases none) directory⟩

/-- Where a path leads to nothing, at least one directory is made. -/
theorem ensureAll_of_missing (inside : t.get? here = some .directory)
    (plain : (FilePath.mk root names.reverse).Plain)
    (absent : t.find here (FilePath.mk root names.reverse).text = .error .missing) :
    ∃ place, t.get? place = none ∧ (ensureAll here root t names).1.get? place = some .directory := by
  induction names with
  | nil =>
    have stands : t.find here (FilePath.mk root []).text = .ok .directory := by
      refine find_eq_ok.mpr ⟨_, locate_text inside plain, ?_⟩
      split
      · rfl
      · exact inside
    cases stands.symm.trans absent
  | cons n above ih =>
    rw [ensureAll]
    rcases ensureDirectory_of_missing absent with ⟨t', made, found⟩ | ⟨lost, failed⟩
    · rw [made]
      exact found
    · rw [failed]
      dsimp only
      rw [if_neg (fun different => different rfl)]
      rw [List.reverse_cons] at plain lost
      obtain ⟨place, none, made⟩ := ih (plain.of_subset (List.subset_append_left _ _)) (find_above inside plain lost)
      refine ⟨place, none, ?_⟩
      split
      · rename_i stopped
        rw [stopped] at made
        exact made
      · rename_i passed
        rw [passed] at made
        exact (settle_grows _).get? made

theorem ensureDirectory_made (made : t.ensureDirectory here path = .ok t') (free : t.get? place = none)
    (stands : t'.get? place ≠ none) : place = (FilePath.ofText path).resolve here := by
  rw [ensureDirectory] at made
  split at made
  · rename_i made'
    cases made
    rw [makeDirectory] at made'
    split at made'
    · cases made'
    · rename_i target leads
      split at made'
      · cases made'
      · cases made'
        by_cases same : place = target
        · rw [same, locate_eq leads]
        · rw [get?_put_other same] at stands
          exact absurd free stands
  · split at made
    · cases made
      exact absurd free stands
    · cases made

/-- What is made is a place of the path or of one above it. -/
theorem ensureAll_made (plain : (FilePath.mk root names.reverse).Plain) (free : t.get? place = none)
    (stands : (ensureAll here root t names).1.get? place ≠ none) :
    ∃ less, less <+: names.reverse ∧ place = (FilePath.mk root less).resolve here := by
  have settled : ∀ {s : FileTree} {p : FilePath}, p.Plain → s.get? place = none →
      (ensureAll.settle (s.ensureDirectory here p.text) s).1.get? place ≠ none → place = p.resolve here := by
    intro s p plain free stands
    cases made : s.ensureDirectory here p.text with
    | ok s' =>
      rw [made] at stands
      rw [ensureDirectory_made made free stands, plain.resolve_text]
    | error f =>
      rw [made] at stands
      exact absurd free stands
  induction names with
  | nil => exact ⟨[], List.nil_prefix, settled plain free stands⟩
  | cons n above ih =>
    rw [ensureAll] at stands
    split at stands
    · rename_i made
      exact ⟨_, List.prefix_rfl, by rw [ensureDirectory_made made free stands, plain.resolve_text]⟩
    · split at stands
      · exact absurd free stands
      · have higher : (FilePath.mk root above.reverse).Plain :=
          plain.of_subset (List.reverse_cons ▸ List.subset_append_left _ _)
        have within : ∀ less, less <+: above.reverse → less <+: (n :: above).reverse :=
          fun less inner => inner.trans (List.reverse_cons ▸ List.prefix_append _ _)
        split at stands
        · rename_i stopped
          rw [stopped] at ih
          obtain ⟨less, inner, same⟩ := ih higher stands
          exact ⟨less, within less inner, same⟩
        · rename_i between passed
          rw [passed] at ih
          by_cases still : between.get? place = none
          · exact ⟨_, List.prefix_rfl, settled plain still stands⟩
          · obtain ⟨less, inner, same⟩ := ih higher still
            exact ⟨less, within less inner, same⟩

variable {p : FilePath}

theorem ensureDirectories_grows (t : FileTree) (here : Directory) (p : FilePath) :
    t.Grows (t.ensureDirectories here p).1 :=
  ensureAll_grows here p.root t p.names.reverse

theorem ensureDirectories_of_found (there : t.find here p.text ≠ .error .missing) :
    (t.ensureDirectories here p).1 = t ∧
      ((t.ensureDirectories here p).2 = none ↔ t.find here p.text = .ok .directory) := by
  have all := @ensureAll_of_found t here p.root p.names.reverse
  rw [List.reverse_reverse] at all
  exact all there

theorem ensureDirectories_of_missing (inside : t.get? here = some .directory) (plain : p.Plain)
    (absent : t.find here p.text = .error .missing) :
    ∃ place, t.get? place = none ∧ (t.ensureDirectories here p).1.get? place = some .directory := by
  have made := @ensureAll_of_missing t here p.root p.names.reverse inside
  rw [List.reverse_reverse] at made
  exact made plain absent

theorem ensureDirectories_made (plain : p.Plain) (free : t.get? place = none)
    (stands : (t.ensureDirectories here p).1.get? place ≠ none) :
    ∃ names, names <+: p.names ∧ place = (FilePath.mk p.root names).resolve here := by
  have made := @ensureAll_made t here place p.root p.names.reverse
  rw [List.reverse_reverse] at made
  exact made plain free stands

end FileTree

end FluentRecords
