import FluentRecords.Proofs.Syntax.StatementOrder
import FluentRecords.Proofs.Text.NormalForm

/-!
Names in sources. A token is a name only if it is written as an identifier that is no reserved word, and its text is the
normal form of that word; so whatever a parsed statement gives as a name is such a normal form.
-/

namespace FluentRecords

namespace Text

variable {c : CodePoint} {t : Text}

theorem toNat_ofNat_of_isContinue (further : isContinue c = true) : (Char.ofNat c).toNat = c := by
  have encodable := isUnencodable_eq_false.mp (isContinue_encodable further)
  have valid : c.isValidChar := by
    unfold Nat.isValidChar
    omega
  rw [Char.ofNat, dif_pos valid]
  rfl

theorem ofChars_map_ofNat (further : t.all isContinue = true) : ofChars (t.map Char.ofNat) = t := by
  rw [ofChars, List.map_map]
  refine Eq.trans (List.map_congr_left fun c member => ?_) (List.map_id t)
  exact toNat_ofNat_of_isContinue (List.all_eq_true.mp further c member)

theorem ofString_toStringLossy (further : t.all isContinue = true) : ofString (toStringLossy t) = t := by
  rw [ofString, toStringLossy, String.toList_ofList]
  exact ofChars_map_ofNat further

/-- What may stand in an identifier is read as a part of one. -/
theorem isNameChar_of_isContinue (further : isContinue c = true) : Numeral.isNameChar (Char.ofNat c) = true := by
  by_cases ascii : c < 0x80
  · have each : ∀ c < 0x80, isContinue c = true → Numeral.isNameChar (Char.ofNat c) = true := by decide +kernel
    exact each c ascii further
  · rw [Numeral.isNameChar, toNat_ofNat_of_isContinue further]
    simp [Nat.le_of_not_lt ascii]

end Text

namespace Reader

theorem firstForeign?_eq_none {word : List Char} :
    word ≠ [] ∧ firstForeign? word = none ↔ Text.isIdentifier (Text.ofChars word) = true := by
  cases word with
  | nil => simp [Text.ofChars, Text.isIdentifier]
  | cons c rest =>
    cases start : Text.isStart c.toNat <;> simp [firstForeign?, Text.ofChars, Text.isIdentifier, start]

end Reader

/-- A token that is a name has the normal form of a word that may be one. -/
def Token.Spelled (t : Token) : Prop :=
  t.kind = .name → ∃ word, Text.isLegalName word = true ∧ Text.ofString t.text = Text.normalize word

/-- What a reading step gives is spelled. -/
def ReadStep.Spelled : ReadStep → Prop
  | .token t _ => t.Spelled
  | .skip _ => True
  | .finish t => t.Spelled
  | .fault _ => True

namespace Reader

theorem spelled_endFault (r : Reader) : r.endFault.Spelled := by
  unfold endFault
  split <;> exact trivial

theorem spelled_marginFault (r : Reader) (f : MarginFault) : (r.marginFault f).Spelled := by
  cases f with
  | badContinuation c => exact trivial
  | endOfSource c => exact spelled_endFault _

theorem spelled_indentTo (r : Reader) (wide narrow : Nat) : (r.indentTo wide narrow).Spelled := by
  unfold indentTo
  dsimp only
  split
  · split <;> exact trivial
  · split
    · split
      · exact trivial
      · split <;> exact trivial
    · split
      · exact trivial
      · split <;> exact trivial

theorem spelled_lineStart (r : Reader) : r.lineStart.Spelled := by
  unfold lineStart
  split
  · exact spelled_marginFault r _
  · dsimp only
    split
    · exact trivial
    · exact trivial
    · split
      · exact trivial
      · split <;> exact spelled_indentTo _ _ _

theorem spelled_lexemeStep (r : Reader) {kind : TokenKind} (length : Nat) (other : kind ≠ .name) :
    (r.lexemeStep kind length).Spelled :=
  fun name => absurd name other

theorem spelled_stringStep (r : Reader) (letters : Nat) : (r.stringStep letters).Spelled := by
  unfold stringStep
  dsimp only
  split
  · exact spelled_lexemeStep r _ nofun
  · exact trivial

theorem spelled_numberStep (r : Reader) : r.numberStep.Spelled := by
  unfold numberStep
  split
  · exact spelled_lexemeStep r _ nofun
  · exact trivial

theorem spelled_operatorStep (r : Reader) (c : Char) : (r.operatorStep c).Spelled := by
  unfold operatorStep
  split
  · exact spelled_lexemeStep r _ nofun
  · split
    · unfold openStep
      split
      · exact trivial
      · exact spelled_lexemeStep _ _ nofun
    · split
      · unfold closeStep
        split
        · exact trivial
        · split
          · exact spelled_lexemeStep _ _ nofun
          · exact trivial
      · split
        · exact spelled_lexemeStep r _ nofun
        · exact trivial

theorem spelled_newlineStep (r : Reader) (start : Cursor) : (r.newlineStep start).Spelled := by
  unfold newlineStep
  dsimp only
  split
  · exact nofun
  · exact trivial

/-- A word is a name only if it is an identifier and not reserved. -/
theorem spelled_nameStep (r : Reader) {c : Char} {rest : List Char} (reading : r.cursor.rest = c :: rest)
    (named : Numeral.isNameChar c = true) : r.nameStep.Spelled := by
  have some : r.cursor.rest.takeWhile Numeral.isNameChar ≠ [] := by
    rw [reading, List.takeWhile_cons_of_pos named]
    exact List.cons_ne_nil _ _
  unfold nameStep
  dsimp only
  split
  · split <;> exact trivial
  · rename_i identified
    have identifier := firstForeign?_eq_none.mp ⟨some, identified⟩
    split
    · exact nofun
    · rename_i free
      refine fun _ => ⟨_, ?_, Text.ofString_toStringLossy ?_⟩
      · rw [Text.isLegalName, identifier, Bool.eq_false_iff.mpr free]
        rfl
      · exact (Text.isIdentifier_iff.mp (Text.isIdentifier_normalize identifier)).2

theorem spelled_tokenStep (r : Reader) : r.tokenStep.Spelled := by
  unfold tokenStep
  generalize skipBlanks r.cursor r.cursor.rest.length = c
  dsimp only
  split
  · split
    · exact nofun
    · exact spelled_endFault _
  · rename_i x rest reading
    split
    · split
      · exact trivial
      · exact spelled_newlineStep _ _
    · split
      · exact spelled_newlineStep _ _
      · split
        · split
          · exact trivial
          · exact spelled_marginFault _ _
        · split
          · exact spelled_stringStep _ _
          · split
            · exact spelled_numberStep _
            · split
              · rename_i named
                exact spelled_nameStep { r with cursor := c } reading named
              · split
                · exact spelled_numberStep _
                · exact spelled_operatorStep _ _

theorem spelled_next (r : Reader) : r.next.Spelled := by
  unfold next
  split
  · exact nofun
  · split
    · exact nofun
    · split
      · exact spelled_lineStart r
      · exact spelled_tokenStep r

theorem spelled_readAll (r : Reader) {done : Array Token} (spelled : ∀ t ∈ done, t.Spelled) (fuel : Nat) :
    ∀ t ∈ (readAll r done fuel).1, t.Spelled := by
  have pushed {done : Array Token} {u : Token} (spelled : ∀ t ∈ done, t.Spelled) (last : u.Spelled) :
      ∀ t ∈ done.push u, t.Spelled := by
    intro t member
    rcases Array.mem_push.mp member with before | rfl
    · exact spelled t before
    · exact last
  induction fuel generalizing r done with
  | zero => exact spelled
  | succ fuel ih =>
    have step := spelled_next r
    unfold readAll
    split
    · rename_i t next given
      rw [given] at step
      exact ih next (pushed spelled step)
    · rename_i next _
      exact ih next spelled
    · rename_i t given
      rw [given] at step
      exact pushed spelled step
    · exact spelled

end Reader

/-- Names in a source are normal forms of words that may be names. -/
theorem TokenName.exists_word {cs : List Char} {n : Text} (name : TokenName (Tokens.ofSource cs).tokens n) :
    ∃ word, Text.isLegalName word = true ∧ n = Text.normalize word := by
  obtain ⟨t, member, named, rfl⟩ := name
  have none : ∀ t ∈ (#[] : Array Token), t.Spelled := fun _ none => absurd none (Array.not_mem_empty _)
  exact Reader.spelled_readAll (.start cs) none (4 * cs.length + 8) t member named

/-- Whatever a statement of a parsed module gives as a name is the normal form of a word that may be one. -/
theorem Module.names_of_parse {source : Text} {m : Module} (parsed : Module.parse source = .ok m) {s : Stmt}
    (member : s ∈ stmtsWithin m.body) {n : Text} (given : n ∈ s.names) :
    ∃ word, Text.isLegalName word = true ∧ n = Text.normalize word := by
  obtain ⟨cs, _, _, spread⟩ := spread_of_parse parsed
  obtain ⟨_, stands⟩ := spread.mem member
  exact (stands.named n given).exists_word

end FluentRecords
