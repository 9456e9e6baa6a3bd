import FluentRecords.Proofs.CommandLine.Checking
import FluentRecords.Proofs.GeneratedFile
import FluentRecords.Proofs.Text.Path

/-!
The header of a generated file. The label of the source is written into it as it is, so what the header says
depends on the lines of the label: behind the first of them each has to be a comment, and none may state another
digest. A label without line ends is one line, and then the header is a block of comments with the right digest.
-/

namespace FluentRecords

namespace Text

/-- The lines of a text, whatever ends them. -/
def lines (t : Text) : List Text :=
  splitLines t.lineFeeds

/-- The lines of a text that a line feed ends. -/
def linesBeforeFeed (t : Text) : List Text :=
  (lines (t ++ [10])).dropLast

theorem lineFeeds_cons {c : CodePoint} (other : c ≠ 13) (t : Text) : lineFeeds (c :: t) = c :: lineFeeds t := by
  rw [lineFeeds]
  · exact fun _ pair => absurd pair other
  · exact other

theorem lineFeeds_return {t : Text} (single : t.head? ≠ some 10) : lineFeeds (13 :: t) = 10 :: lineFeeds t := by
  rw [lineFeeds]
  rintro rest rfl
  exact single rfl

/-- What a line feed ends is read alike whatever follows, also if the line feed is half of a line end. -/
theorem lineFeeds_append_feed (t : Text) :
    ∃ ended, ∀ rest : Text, (t ++ 10 :: rest).lineFeeds = ended ++ 10 :: rest.lineFeeds := by
  induction t using lineFeeds.induct with
  | case1 => exact ⟨[], fun rest => rfl⟩
  | case2 t ih =>
    obtain ⟨ended, read⟩ := ih
    exact ⟨10 :: ended, fun rest => congrArg (10 :: ·) (read rest)⟩
  | case3 t single ih =>
    obtain ⟨ended, read⟩ := ih
    cases t with
    | nil => exact ⟨[], fun rest => rfl⟩
    | cons c t =>
      have next : ∀ rest : Text, (c :: t ++ rest).head? ≠ some 10 := by
        intro rest first
        cases Option.some.inj first
        exact single t rfl
      refine ⟨10 :: ended, fun rest => ?_⟩
      rw [List.cons_append, lineFeeds_return (next _), read rest, List.cons_append]
  | case4 c t _ other ih =>
    obtain ⟨ended, read⟩ := ih
    exact ⟨c :: ended, fun rest => by rw [List.cons_append, lineFeeds_cons other, read rest, List.cons_append]⟩

theorem linesBeforeFeed_of_read {t ended : Text}
    (read : ∀ rest : Text, (t ++ 10 :: rest).lineFeeds = ended ++ 10 :: rest.lineFeeds) :
    linesBeforeFeed t = splitLines ended := by
  rw [linesBeforeFeed, lines, read, splitLines_append_feed]
  exact List.dropLast_concat

/-- The lines before a line feed and those behind it, whatever ends them. -/
theorem lines_append_feed (t rest : Text) : lines (t ++ 10 :: rest) = linesBeforeFeed t ++ lines rest := by
  obtain ⟨ended, read⟩ := lineFeeds_append_feed t
  rw [linesBeforeFeed_of_read read, lines, read, splitLines_append_feed, lines]

theorem splitLines_append {t line : Text} {rest : List Text} {s : Text} (unbroken : 10 ∉ t)
    (split : splitLines s = line :: rest) : splitLines (t ++ s) = (t ++ line) :: rest := by
  induction t with
  | nil => exact split
  | cons c t ih =>
    rw [List.cons_append, splitLines, ih (List.not_mem_of_not_mem_cons unbroken)]
    exact if_neg (List.ne_of_not_mem_cons unbroken).symm

/-- What stands before a text and breaks no line joins its first one. -/
theorem linesBeforeFeed_append {p : Text} (unbroken : ∀ c ∈ p, c ≠ 10 ∧ c ≠ 13) (t : Text) :
    ∃ line, linesBeforeFeed (p ++ t) = (p ++ line) :: (linesBeforeFeed t).tail := by
  obtain ⟨ended, read⟩ := lineFeeds_append_feed t
  obtain ⟨line, rest, split⟩ := exists_splitLines ended
  have feed : 10 ∉ p := fun member => (unbroken 10 member).1 rfl
  have plain : 13 ∉ p := fun member => (unbroken 13 member).2 rfl
  have joined : ∀ more : Text, (p ++ t ++ 10 :: more).lineFeeds = p ++ ended ++ 10 :: more.lineFeeds := by
    intro more
    rw [List.append_assoc, lineFeeds_append plain, read, List.append_assoc]
  refine ⟨line, ?_⟩
  rw [linesBeforeFeed_of_read joined, linesBeforeFeed_of_read read, splitLines_append feed split, split, List.tail_cons]

theorem linesBeforeFeed_of_unbroken {t : Text} (unbroken : ∀ c ∈ t, c ≠ 10 ∧ c ≠ 13) :
    linesBeforeFeed t = [t] := by
  have plain : 13 ∉ t := fun member => (unbroken 13 member).2 rfl
  rw [linesBeforeFeed_of_read fun rest => lineFeeds_append plain (10 :: rest)]
  exact splitLines_of_not_mem fun member => (unbroken 10 member).1 rfl

/-- Whether a line of code is a comment. -/
def isComment (line : Text) : Bool :=
  (line.dropWhile fun c => c == 32 || c == 9 || c == 12).head? == some 35

/-- Comment lines and an empty line, and nothing behind it. -/
def IsInert (t : Text) : Prop :=
  ∃ comments : List Text, (∀ line ∈ comments, isComment line = true) ∧ t.lines = comments ++ [[], []]

end Text

namespace GeneratedFile

open Text

variable {digest : Text}

theorem IsDigest.unbroken (valid : IsDigest digest) : ∀ c ∈ digest, c ≠ 10 ∧ c ≠ 13 := by
  intro c member
  have digit := valid.digits c member
  refine ⟨fun feed => ?_, fun returns => ?_⟩
  · cases feed ▸ digit
  · cases returns ▸ digit

/-- The lines of a header: the label stands in the second one and goes on from there. -/
theorem lines_header (valid : IsDigest digest) (label : Text) : ∃ line, (header label digest).lines =
    (Text.ofString "# record-builder generated" :: (Text.ofString "# source: " ++ line) ::
      (linesBeforeFeed label).tail ++ [Text.ofString "# generator_version: " ++ generatorVersion,
        Text.ofString "# format_version: " ++ formatVersion, digestMark ++ digest]) ++ [[], []] := by
  have marked : ∀ c ∈ digestMark, c ≠ 10 ∧ c ≠ 13 := by decide
  have stated : ∀ c ∈ digestMark ++ digest, c ≠ 10 ∧ c ≠ 13 := fun c member =>
    (List.mem_append.mp member).elim (marked c) (valid.unbroken c)
  obtain ⟨line, named⟩ := linesBeforeFeed_append (p := Text.ofString "# source: ") (by decide) label
  refine ⟨line, ?_⟩
  rw [← List.append_nil (header label digest), header_append]
  simp only [lines_append_feed]
  rw [linesBeforeFeed_of_unbroken (t := Text.ofString "# record-builder generated") (by decide), named,
    linesBeforeFeed_of_unbroken (t := Text.ofString "# generator_version: " ++ generatorVersion) (by decide),
    linesBeforeFeed_of_unbroken (t := Text.ofString "# format_version: " ++ formatVersion) (by decide),
    linesBeforeFeed_of_unbroken stated]
  have last : lines [10] = [[], []] := rfl
  simp only [last, List.cons_append, List.nil_append, List.append_assoc]

/-- A header consists of comments and an empty line if and only if the lines behind the first one of the label
are comments. -/
theorem isInert_header (valid : IsDigest digest) (label : Text) :
    (header label digest).IsInert ↔ ∀ line ∈ (linesBeforeFeed label).tail, isComment line = true := by
  obtain ⟨line, split⟩ := lines_header valid label
  constructor
  · rintro ⟨comments, all, same⟩ l member
    have own := List.append_cancel_right (split.symm.trans same)
    refine all l (own ▸ ?_)
    exact List.mem_append_left _ (List.mem_cons_of_mem _ (List.mem_cons_of_mem _ member))
  · intro all
    refine ⟨_, fun l member => ?_, split⟩
    simp only [List.cons_append, List.mem_cons, List.mem_append, List.not_mem_nil, or_false] at member
    rcases member with rfl | rfl | inside | rfl | rfl | rfl
    · rfl
    · rfl
    · exact all l inside
    · rfl
    · rfl
    · rfl

theorem labelDigest?_eq (label : Text) : labelDigest? label = (splitLines label).tail.findSome? lineDigest? := by
  obtain ⟨line, rest, split⟩ := exists_splitLines label
  rw [labelDigest?, splitLines_append (by decide) split, split, List.findSome?_cons]
  rfl

theorem labelDigest?_or (label digest : Text) : (labelDigest? label).or (some digest) = some digest ↔
    ∀ stated, (splitLines label).tail.findSome? lineDigest? = some stated → stated = digest := by
  rw [labelDigest?_eq]
  cases (splitLines label).tail.findSome? lineDigest? with
  | none => simp
  | some stated => simp

/-- What is generated is a header and the transformed source. The header consists of comments and an empty line
if and only if the lines of the label behind its first are comments. The file states the digest of the source
under the settings if and only if the first of these lines that states one states this one, whatever the
transformed source states. Both hold if neither the path nor the directory it is seen from holds a line end. -/
theorem render_header {here : Directory} {path : Text} {settings : Settings} {source text : Text}
    (rendered : render here (FilePath.ofText path) settings source = .ok text) :
    ∃ t body, transform settings source = .ok t ∧ t.source = some body ∧
      let label := (FilePath.ofText path).label here
      let digest := GeneratedFile.digest settings (bytes source)
      text = header label digest ++ body ∧
      ((header label digest).IsInert ↔ ∀ line ∈ (linesBeforeFeed label).tail, isComment line = true) ∧
      (digest? text = some digest ↔
        ∀ stated, (splitLines label).tail.findSome? lineDigest? = some stated → stated = digest) ∧
      ((∀ c ∈ path, c ≠ 10 ∧ c ≠ 13) → (∀ n ∈ here, ∀ c ∈ n, c ≠ 10 ∧ c ≠ 13) →
        (header label digest).IsInert ∧ digest? text = some digest) := by
  obtain ⟨t, body, transformed, present, rfl⟩ := render_eq_ok.mp rendered
  have valid := isDigest_digest settings (bytes source)
  have inert := isInert_header valid ((FilePath.ofText path).label here)
  have truthful := labelDigest?_or ((FilePath.ofText path).label here) (GeneratedFile.digest settings (bytes source))
  rw [← digest?_header valid body] at truthful
  refine ⟨t, body, transformed, present, rfl, inert, truthful, fun plain base => ?_⟩
  have unbroken := FilePath.label_unbroken plain base
  refine ⟨inert.mpr ?_, truthful.mpr ?_⟩
  · rw [linesBeforeFeed_of_unbroken unbroken]
    exact fun _ none => by cases none
  · rw [splitLines_of_not_mem fun feed => (unbroken 10 feed).1 rfl]
    exact fun _ none => by cases none

open Generate in
/-- The file that is generated for nothing is a header. -/
theorem render_nil (here : Directory) (path : FilePath) : transform .default [] = .ok ⟨some [], [], []⟩ ∧
    render here path .default [] = .ok (header (path.label here) emptyDigest) := by
  have quiet : transform .default [] = .ok ⟨some [], [], []⟩ :=
    Module.transform_quiet Module.parse_nil (Module.requests_nil _)
  refine ⟨quiet, render_eq_ok.mpr ⟨_, [], quiet, rfl, ?_⟩⟩
  rw [List.append_nil]
  exact congrArg _ digest_nil

namespace Samples

/-- A text that can be stated as a digest. -/
def forgedDigest : Text :=
  List.replicate 64 48

/-- A path whose second line states a digest and whose third line is code. -/
def forgingPath : Text :=
  "a\n# digest: " ++ forgedDigest ++ "\nb"

/-- The file that is generated for nothing at this path. -/
def forgedFile : Text :=
  header ((FilePath.ofText forgingPath).label []) Generate.emptyDigest

end Samples

open Generate GeneratedFile.Samples in
theorem render_header_plain :
    render ["work"] (FilePath.ofText "models.py") .default [] = .ok emptyFile ∧
      emptyFile.IsInert ∧ digest? emptyFile = some (GeneratedFile.digest .default (bytes [])) := by
  have rendered : render ["work"] (FilePath.ofText "models.py") .default [] = .ok emptyFile :=
    (render_nil _ _).2
  obtain ⟨t, body, transformed, present, whole, _, _, unbroken⟩ := render_header rendered
  cases (render_nil [] ⟨[], []⟩).1.symm.trans transformed
  cases present
  obtain ⟨inert, truthful⟩ := unbroken (by decide) (by decide)
  refine ⟨rendered, ?_, truthful⟩
  rw [whole, List.append_nil]
  exact inert

open Generate GeneratedFile.Samples in
/-- A path can forge a digest and add lines of code: what stands before the transformed source, which is empty
here, is not inert, and the file does not state the digest of its source. -/
theorem render_header_forged :
    transform .default [] = .ok ⟨some [], [], []⟩ ∧
      render [] (FilePath.ofText forgingPath) .default [] = .ok forgedFile ∧ ¬ forgedFile.IsInert ∧
      digest? forgedFile = some forgedDigest ∧ GeneratedFile.digest .default (bytes []) ≠ forgedDigest := by
  obtain ⟨quiet, rendered⟩ := render_nil [] (FilePath.ofText forgingPath)
  have valid : IsDigest emptyDigest := ⟨by decide, by decide⟩
  refine ⟨quiet, rendered, fun inert => ?_, by decide +kernel, fun same => ?_⟩
  · have code := (isInert_header valid _).mp inert "b" (by decide)
    cases code
  · exact absurd (digest_nil.symm.trans same) (by decide)

end GeneratedFile

end FluentRecords
