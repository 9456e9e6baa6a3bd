import FluentRecords.Files.Tree
import FluentRecords.Proofs.Outcome
import FluentRecords.Proofs.Text.Path

/-!
What writing a file leaves as it was. Directories stay directories, so a path that led somewhere still
leads there; every other file stays as it is, and the place that was written to holds what was written.
-/

namespace FluentRecords

namespace FileTree

variable {t t' t'' : FileTree} {here place : Directory} {path : Text} {e : FileEntry}

theorem get?_nil (t : FileTree) : t.get? [] = some .directory :=
  rfl

theorem get?_cons (t : FileTree) {place : Directory} (below : place ≠ []) :
    t.get? place = (t.entries.find? (·.1 == place)).map (·.2) := by
  rw [get?, if_neg fun none => below (List.isEmpty_iff.mp none)]

theorem get?_put (below : place ≠ []) : (t.put place e).get? place = some e := by
  have gone : (t.entries.filter (·.1 != place)).find? (·.1 == place) = none := by
    rw [List.find?_eq_none]
    intro other member same
    exact bne_iff_ne.mp (List.mem_filter.mp member).2 (beq_iff_eq.mp same)
  rw [get?_cons _ below, put, List.find?_append, gone]
  simp

theorem get?_put_other {other : Directory} (apart : other ≠ place) : (t.put place e).get? other = t.get? other := by
  by_cases root : other = []
  · rw [root, get?_nil, get?_nil]
  · have passed : (place == other) = false := beq_eq_false_iff_ne.mpr (Ne.symm apart)
    rw [get?_cons _ root, get?_cons _ root, put, List.find?_append, List.find?_filter, List.find?_singleton]
    simp only [passed, Bool.false_eq_true, if_false, Option.or_none]
    congr 2
    funext entry
    by_cases here : entry.1 = other
    · simp [here, apart]
    · simp [here]

/-- Where there were directories, there are directories still. -/
def KeepsDirectories (t t' : FileTree) : Prop :=
  ∀ place, t.get? place = some .directory → t'.get? place = some .directory

theorem KeepsDirectories.step (keeps : t.KeepsDirectories t') {piece : Text} {next : Directory}
    (done : t.step place piece = .ok next) : t'.step place piece = .ok next := by
  rw [FileTree.step] at done ⊢
  split at done
  · cases done
  · cases done
  · rename_i directory
    rw [keeps place directory]
    exact done

theorem KeepsDirectories.steps (keeps : t.KeepsDirectories t') {ps : List Text} {start : Directory}
    (done : ps.foldlM t.step start = .ok place) : ps.foldlM t'.step start = .ok place := by
  induction ps generalizing start with
  | nil => exact done
  | cons piece rest ih =>
    rw [List.foldlM_cons] at done ⊢
    obtain ⟨next, first, more⟩ := bind_eq_ok.mp done
    exact bind_eq_ok.mpr ⟨next, keeps.step first, ih more⟩

/-- A path that leads somewhere still leads there. -/
theorem KeepsDirectories.locate (keeps : t.KeepsDirectories t') (found : t.locate here path = .ok place) :
    t'.locate here path = .ok place := by
  rw [FileTree.locate] at found ⊢
  split at found
  · cases found
  · rename_i spelled
    rw [if_neg spelled]
    exact keeps.steps found

theorem steps_eq {ps : List Text} {start : Directory} (done : ps.foldlM t.step start = .ok place) :
    place = FilePath.descend start (ps.filter (!FilePath.isSilent ·)) := by
  induction ps generalizing start with
  | nil => exact (Except.ok.inj done).symm
  | cons piece rest ih =>
    rw [List.foldlM_cons] at done
    obtain ⟨next, first, more⟩ := bind_eq_ok.mp done
    rw [ih more, List.filter_cons]
    rw [step] at first
    split at first
    · cases first
    · cases first
    · rw [← Except.ok.inj first]
      split
      · rename_i silent
        simp [silent]
      · rename_i said
        simp only [said, Bool.not_false, if_true, FilePath.descend, beq_iff_eq]
        split
        · rfl
        · rfl

/-- Where a path leads, if it leads anywhere. -/
theorem locate_eq (found : t.locate here path = .ok place) : place = (FilePath.ofText path).resolve here := by
  rw [locate] at found
  split at found
  · cases found
  · rw [FilePath.resolve_eq, FilePath.isAbsolute_ofText]
    exact steps_eq found

theorem find_eq_ok : t.find here path = .ok e ↔ ∃ place, t.locate here path = .ok place ∧ t.get? place = some e := by
  rw [find, bind_eq_ok]
  refine exists_congr fun place => and_congr_right fun _ => ?_
  cases t.get? place with
  | none => simp
  | some found => simp

theorem readText_eq_ok {text : Text} : t.readText here path = .ok text ↔
    ∃ content decoded, t.find here path = .ok (.file content) ∧ Text.decode content = .ok decoded ∧
      decoded.lineFeeds = text := by
  have file : ∀ content, t.read here path = .ok content ↔ t.find here path = .ok (.file content) := by
    intro content
    rw [read]
    split
    · rename_i found
      rw [found]
      simp
    · rename_i found
      rw [found]
      simp
    · rename_i found
      rw [found]
      simp
  rw [readText]
  simp only [bind_eq_ok, mapError_eq_ok, file, Except.ok.injEq]
  constructor
  · rintro ⟨content, found, decoded, read, same⟩
    exact ⟨content, decoded, found, read, same⟩
  · rintro ⟨content, decoded, found, read, same⟩
    exact ⟨content, found, decoded, read, same⟩

/-- A tree grows if directories are made where nothing was. -/
def Grows (t t' : FileTree) : Prop :=
  ∀ place, t'.get? place = t.get? place ∨ (t.get? place = none ∧ t'.get? place = some .directory)

theorem Grows.refl (t : FileTree) : t.Grows t :=
  fun _ => Or.inl rfl

theorem Grows.trans (first : t.Grows t') (next : t'.Grows t'') : t.Grows t'' := by
  intro place
  rcases first place with same | ⟨none, made⟩
  · rcases next place with again | ⟨none, made⟩
    · exact Or.inl (again.trans same)
    · exact Or.inr ⟨same ▸ none, made⟩
  · rcases next place with again | ⟨gone, _⟩
    · exact Or.inr ⟨none, again.trans made⟩
    · rw [made] at gone
      cases gone

theorem Grows.get? (grows : t.Grows t') (found : t.get? place = some e) : t'.get? place = some e := by
  rcases grows place with same | ⟨none, _⟩
  · exact same.trans found
  · rw [found] at none
    cases none

theorem makeDirectory_grows (made : t.makeDirectory here path = .ok t') : t.Grows t' := by
  rw [makeDirectory] at made
  split at made
  · cases made
  · rename_i place _
    split at made
    · cases made
    · rename_i free
      cases made
      have none : t.get? place = none := Option.not_isSome_iff_eq_none.mp free
      intro other
      by_cases here : other = place
      · have below : place ≠ [] := by
          rintro rfl
          cases none
        rw [here]
        exact Or.inr ⟨none, get?_put below⟩
      · exact Or.inl (get?_put_other here)

theorem ensureDirectory_grows (made : t.ensureDirectory here path = .ok t') : t.Grows t' := by
  rw [ensureDirectory] at made
  split at made
  · rename_i made'
    cases made
    exact makeDirectory_grows made'
  · split at made
    · cases made
      exact .refl t
    · cases made

theorem settle_grows (path : Text) : t.Grows (ensureAll.settle (t.ensureDirectory here path) t).1 := by
  cases made : t.ensureDirectory here path with
  | ok after => exact ensureDirectory_grows made
  | error f => exact .refl t

/-- Making the directories above a path makes nothing else. -/
theorem ensureAll_grows (here : Directory) (root : Text) (t : FileTree) (names : List Text) :
    t.Grows (ensureAll here root t names).1 := by
  induction names with
  | nil => exact settle_grows _
  | cons n above ih =>
    rw [ensureAll]
    split
    · rename_i made
      exact ensureDirectory_grows made
    · split
      · exact .refl t
      · split
        · rename_i failed
          rw [failed] at ih
          exact ih
        · rename_i made
          rw [made] at ih
          exact ih.trans (settle_grows _)

/-- A tree in which a file was written, where directories may have been made. -/
structure Writes (t t' : FileTree) (place : Directory) (bytes : List UInt8) : Prop where
  directories : t.KeepsDirectories t'
  others : ∀ other content, other ≠ place → t.get? other = some (.file content) →
    t'.get? other = some (.file content)
  written : t'.get? place = some (.file bytes)

/-- A file that is written stands where its path leads. -/
theorem write_writes {bytes : List UInt8} (written : t.write here path bytes = .ok t') :
    t.Writes t' ((FilePath.ofText path).resolve here) bytes ∧
      t'.locate here path = .ok ((FilePath.ofText path).resolve here) := by
  rw [write] at written
  split at written
  · cases written
  · rename_i place found
    split at written
    · cases written
    · rename_i free
      cases written
      have same := locate_eq found
      have below : place ≠ [] := by
        rintro rfl
        exact free (get?_nil t)
      have directories : t.KeepsDirectories (t.put place (.file bytes)) := by
        intro other directory
        have apart : other ≠ place := by
          rintro rfl
          exact free directory
        rw [get?_put_other apart]
        exact directory
      rw [← same]
      exact ⟨{
        directories := directories
        others := fun other content apart before => (get?_put_other apart).trans before
        written := get?_put below }, directories.locate found⟩

theorem Grows.writes {bytes : List UInt8} (grows : t.Grows t') (writes : t'.Writes t'' place bytes) :
    t.Writes t'' place bytes where
  directories other directory := writes.directories other (grows.get? directory)
  others other content apart before := writes.others other content apart (grows.get? before)
  written := writes.written

namespace Writes

variable {bytes : List UInt8}

/-- A path to another file still leads to it. -/
theorem find_other (writes : t.Writes t' place bytes) {content : List UInt8}
    (found : t.find here path = .ok (.file content)) (apart : (FilePath.ofText path).resolve here ≠ place) :
    t'.find here path = .ok (.file content) := by
  obtain ⟨other, leads, before⟩ := find_eq_ok.mp found
  have different : other ≠ place := locate_eq leads ▸ apart
  exact find_eq_ok.mpr ⟨other, writes.directories.locate leads, writes.others other content different before⟩

/-- A path to the place of the file that was written leads to that file, if it leads anywhere. -/
theorem find_written (writes : t.Writes t' ((FilePath.ofText path).resolve here) bytes)
    (found : t'.find here path = .ok e) : e = .file bytes := by
  obtain ⟨other, leads, stands⟩ := find_eq_ok.mp found
  rw [locate_eq leads, writes.written] at stands
  exact (Option.some.inj stands).symm

end Writes

end FileTree

end FluentRecords
