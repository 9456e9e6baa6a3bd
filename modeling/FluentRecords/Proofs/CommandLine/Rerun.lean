import FluentRecords.Proofs.CommandLine.Checking
import FluentRecords.Proofs.GeneratedFile

/-!
Runs after runs. The file that a run leaves states the digest of the source and the settings, so that the same
run keeps it.
-/

namespace FluentRecords

namespace Generate

variable {tree left : FileTree} {here : Directory} {words : List Text} {o : Order} {path text existing : Text}

/-- A file that is current states the same digest as the text. -/
theorem digest?_of_isCurrent (current : isCurrent existing text = true) :
    GeneratedFile.digest? existing = GeneratedFile.digest? text := by
  rw [isCurrent, Bool.or_eq_true, Bool.and_eq_true, beq_iff_eq, beq_iff_eq] at current
  rcases current with rfl | ⟨_, same⟩
  · rfl
  · exact same

/-- A file that states the digest of the text is current. -/
theorem isCurrent_of_digest? {digest : Text} (stated : GeneratedFile.digest? existing = some digest)
    (same : GeneratedFile.digest? text = some digest) : isCurrent existing text = true := by
  rw [isCurrent, stated, same]
  simp

/-- The text to be generated states the digest of the source and the settings, also when it is read. -/
theorem digest?_render (unbroken : ∀ c ∈ (FilePath.ofText o.input).label here, c ≠ 10 ∧ c ≠ 13)
    (rendered : Generate.render tree here o = .ok text) :
    ∃ settings source, Settings.ofOptions o.options = .ok settings ∧
      tree.readText here (FilePath.ofText o.input).text = .ok source ∧
      GeneratedFile.digest? text = some (GeneratedFile.digest settings (GeneratedFile.bytes source)) ∧
      GeneratedFile.digest? text.lineFeeds = some (GeneratedFile.digest settings (GeneratedFile.bytes source)) := by
  obtain ⟨settings, source, given, read, made⟩ := render_eq_ok.mp rendered
  obtain ⟨t, body, _, _, rfl⟩ := GeneratedFile.render_eq_ok.mp made
  have valid := GeneratedFile.isDigest_digest settings (GeneratedFile.bytes source)
  have none := GeneratedFile.labelDigest?_of_not_mem fun feed => (unbroken 10 feed).1 rfl
  have plain : 13 ∉ (FilePath.ofText o.input).label here := fun returns => (unbroken 13 returns).2 rfl
  refine ⟨settings, source, given, read, ?_, ?_⟩
  · rw [GeneratedFile.digest?_header valid, none, Option.none_or]
  · rw [GeneratedFile.lineFeeds_header plain valid, GeneratedFile.digest?_header valid, none, Option.none_or]

/-- The words that order a file for the empty module, under a flag of the program. -/
def emptyVerbose : List Text :=
  "-v" :: "generate" :: emptyWords

end Generate

end FluentRecords
