import FluentRecords.GeneratedFile
import FluentRecords.Proofs.Outcome
import Mathlib.Data.List.Basic

/-!
Generated files state their digest. The first line of a file that states one is that of the header, unless the
label of the source spreads over several lines and one of them does; reading the file keeps the header.
-/

namespace FluentRecords

namespace Text

theorem exists_splitLines (t : Text) : ∃ line lines, splitLines t = line :: lines := by
  cases t with
  | nil => exact ⟨_, _, rfl⟩
  | cons c rest =>
    rw [splitLines]
    split
    · exact ⟨_, _, rfl⟩
    · split
      · exact ⟨_, _, rfl⟩
      · exact ⟨_, _, rfl⟩

/-- The lines before a line feed and those behind it. -/
theorem splitLines_append_feed (t rest : Text) : splitLines (t ++ 10 :: rest) = splitLines t ++ splitLines rest := by
  induction t with
  | nil =>
    obtain ⟨line, lines, first⟩ := exists_splitLines rest
    rw [List.nil_append, splitLines, splitLines, first]
    exact if_pos rfl
  | cons c t ih =>
    obtain ⟨line, lines, first⟩ := exists_splitLines t
    rw [List.cons_append, splitLines, ih, splitLines, first]
    by_cases feed : c = 10
    · simp only [feed, if_true, List.cons_append]
    · simp only [feed, if_false, List.cons_append]

theorem splitLines_of_not_mem {t : Text} (unbroken : 10 ∉ t) : splitLines t = [t] := by
  induction t with
  | nil => rfl
  | cons c t ih =>
    rw [splitLines, ih (List.not_mem_of_not_mem_cons unbroken)]
    exact if_neg (List.ne_of_not_mem_cons unbroken).symm

/-- Reading keeps the beginning of a text up to the first carriage return. -/
theorem lineFeeds_append {t : Text} (plain : 13 ∉ t) (rest : Text) :
    (t ++ rest).lineFeeds = t ++ rest.lineFeeds := by
  induction t with
  | nil => rfl
  | cons c t ih =>
    have other : c ≠ 13 := (List.ne_of_not_mem_cons plain).symm
    rw [List.cons_append, lineFeeds, ih (List.not_mem_of_not_mem_cons plain), List.cons_append]
    · exact fun _ pair => absurd pair other
    · exact other

theorem length_hex (width n : Nat) : (hex width n).length = width := by
  induction width with
  | zero => rfl
  | succ width ih => exact congrArg Nat.succ ih

end Text

namespace GeneratedFile

theorem isDigestDigit_hexDigit : ∀ n < 16, isDigestDigit (Text.hexDigit n) = true := by
  decide

theorem isDigestDigit_hex {width n : Nat} : ∀ c ∈ Text.hex width n, isDigestDigit c = true := by
  induction width with
  | zero => exact fun _ none => by cases none
  | succ width ih =>
    intro c member
    change c ∈ _ :: Text.hex width n at member
    rcases List.mem_cons.mp member with rfl | later
    · exact isDigestDigit_hexDigit _ (Nat.mod_lt _ (by decide))
    · exact ih c later

/-- A text that can be stated as a digest. -/
structure IsDigest (t : Text) : Prop where
  length : t.length = 64
  digits : ∀ c ∈ t, isDigestDigit c = true

theorem isDigest_hexDigest (message : List UInt8) : IsDigest (Sha256.hexDigest message) where
  length := by
    simp only [Sha256.hexDigest, List.flatMap_cons, List.flatMap_nil, List.length_append, Text.length_hex,
      List.length_nil]
  digits c member := by
    obtain ⟨w, _, inside⟩ := List.mem_flatMap.mp member
    exact isDigestDigit_hex c inside

theorem isDigest_digest (settings : Settings) (source : List UInt8) : IsDigest (digest settings source) :=
  isDigest_hexDigest _

variable {label digest : Text}

theorem lineDigest?_mark (valid : IsDigest digest) : lineDigest? (digestMark ++ digest) = some digest := by
  have marked : Text.startsWith digestMark (digestMark ++ digest) = true :=
    List.isPrefixOf_iff_prefix.mpr (List.prefix_append _ _)
  rw [lineDigest?, List.drop_left, marked, valid.length, List.all_eq_true.mpr valid.digits]
  rfl

/-- The lines of a header, before whatever follows it. -/
theorem header_append (label digest body : Text) : header label digest ++ body =
    Text.ofString "# record-builder generated" ++ 10 :: (Text.ofString "# source: " ++ label ++
      10 :: (Text.ofString "# generator_version: " ++ generatorVersion ++
        10 :: (Text.ofString "# format_version: " ++ formatVersion ++
          10 :: (digestMark ++ digest ++ 10 :: 10 :: body)))) := by
  have source : Text.ofString "# record-builder generated\n# source: " =
      Text.ofString "# record-builder generated" ++ 10 :: Text.ofString "# source: " := by decide
  have generator : Text.ofString "\n# generator_version: " = 10 :: Text.ofString "# generator_version: " := by decide
  have format : Text.ofString "\n# format_version: " = 10 :: Text.ofString "# format_version: " := by decide
  have line : Text.ofString "\n" = [10] := by decide
  have lines : Text.ofString "\n\n" = [10, 10] := by decide
  simp only [header, source, generator, format, line, lines, List.append_assoc, List.cons_append, List.nil_append]

/-- What the lines that name the source state. -/
def labelDigest? (label : Text) : Option Text :=
  (Text.splitLines (Text.ofString "# source: " ++ label)).findSome? lineDigest?

theorem labelDigest?_of_not_mem (unbroken : 10 ∉ label) : labelDigest? label = none := by
  have whole : 10 ∉ Text.ofString "# source: " ++ label :=
    List.not_mem_append (by decide) unbroken
  rw [labelDigest?, Text.splitLines_of_not_mem whole]
  rfl

/-- A generated file states its digest, unless the lines that name its source state one. -/
theorem digest?_header (valid : IsDigest digest) (body : Text) :
    digest? (header label digest ++ body) = (labelDigest? label).or (some digest) := by
  have first : (Text.splitLines (Text.ofString "# record-builder generated")).findSome? lineDigest? = none := by
    decide
  have generator : (Text.splitLines (Text.ofString "# generator_version: " ++ generatorVersion)).findSome? lineDigest? =
      none := by
    decide
  have format : (Text.splitLines (Text.ofString "# format_version: " ++ formatVersion)).findSome? lineDigest? =
      none := by
    decide
  have plain : 10 ∉ digestMark ++ digest :=
    List.not_mem_append (by decide) fun feed => by cases valid.digits 10 feed
  rw [digest?, header_append]
  simp only [Text.splitLines_append_feed, List.findSome?_append, first, generator, format, Option.none_or]
  rw [Text.splitLines_of_not_mem plain, List.findSome?_singleton, lineDigest?_mark valid, Option.some_or]
  rfl

/-- The header is kept when a generated file is read, if the label of the source holds no carriage return. -/
theorem lineFeeds_header (plain : 13 ∉ label) (valid : IsDigest digest) (body : Text) :
    (header label digest ++ body).lineFeeds = header label digest ++ body.lineFeeds := by
  refine Text.lineFeeds_append (fun returns => ?_) body
  have own : 13 ∉ digest := fun inside => by cases valid.digits 13 inside
  simp only [header, List.mem_append, plain, own, or_false] at returns
  revert returns
  decide

/-- A rendered file is the header and the transformed source. -/
theorem render_eq_ok {here : Directory} {path : FilePath} {settings : Settings} {source text : Text} :
    render here path settings source = .ok text ↔
      ∃ t body, transform settings source = .ok t ∧ t.source = some body ∧
        header (path.label here) (GeneratedFile.digest settings (bytes source)) ++ body = text := by
  unfold render
  simp only [bind_eq_ok, mapError_eq_ok]
  refine exists_congr fun t => ?_
  cases present : t.source with
  | none => simp
  | some body => simp

end GeneratedFile

end FluentRecords
