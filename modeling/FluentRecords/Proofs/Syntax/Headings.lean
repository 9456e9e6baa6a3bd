import FluentRecords.Proofs.Syntax.NameTokens

/-!
Headings of definitions. In a line, an identifier with something else behind it is read as one token, and this is a name
unless the identifier is a reserved word. So a definition is read back as one of the name in its heading exactly if that
is no reserved word.
-/

namespace FluentRecords

namespace Cursor

variable {c : Cursor} {x : Char} {front behind : List Char}

theorem rest_enter (c : Cursor) : c.enter.rest = c.rest := by
  unfold enter
  split <;> rfl

theorem rest_step (reading : c.rest = x :: behind) : c.step.rest = behind := by
  unfold step
  dsimp only
  rw [rest_enterJoined, reading]

theorem rest_advance (reading : c.rest = front ++ behind) : (c.advance front.length).rest = behind := by
  induction front generalizing c with
  | nil => exact reading
  | cons x front ih => exact ih (rest_step reading)

end Cursor

namespace Text

variable {c : CodePoint}

theorem isDigit_of_isStart (start : isStart c = true) : (Char.ofNat c).isDigit = false := by
  by_cases ascii : c < 0x80
  · have each : ∀ c < 0x80, isStart c = true → (Char.ofNat c).isDigit = false := by decide +kernel
    exact each c ascii start
  · have large : 0x80 ≤ (Char.ofNat c).toNat := by
      rw [toNat_ofNat_of_isContinue (isContinue_of_isStart start)]
      exact Nat.le_of_not_lt ascii
    have upper : ¬ (Char.ofNat c).val ≤ 57 := by
      rw [UInt32.le_iff_toNat_le]
      change ¬ (Char.ofNat c).toNat ≤ 57
      omega
    simp [Char.isDigit, upper]

end Text

namespace Reader

variable {r : Reader} {n : Text} {sep : Char} {rest : List Char}

/-- A reader stands inside a line, with nothing pending. -/
structure InLine (r : Reader) : Prop where
  pending : r.pending = 0
  entered : r.atLineStart = false

theorem InLine.next_eq (inLine : r.InLine) : r.next = r.tokenStep := by
  rw [next, inLine.pending, inLine.entered]
  rfl

/-- The next token is of a kind and has a text, and reading goes on inside the line in front of what follows. -/
def Reads (r : Reader) (kind : TokenKind) (text : Text) (r' : Reader) : Prop :=
  ∃ t, r.next = .token t r' ∧ t.kind = kind ∧ Text.ofString t.text = text

/-- The kind of the token for a word. -/
def wordKind (n : Text) : TokenKind :=
  if Text.isKeyword n then .keyword else .name

/-- The text of that token. -/
def wordText (n : Text) : Text :=
  if Text.isKeyword n then n else Text.normalize n

theorem rest_skipBlanks {c : Cursor} {x : Char} {behind : List Char} (blanks : Nat)
    (reading : c.rest = List.replicate blanks ' ' ++ x :: behind) (named : Numeral.isNameChar x = true) {fuel : Nat}
    (enough : blanks ≤ fuel) : (skipBlanks c fuel).rest = x :: behind := by
  induction blanks generalizing c fuel with
  | zero =>
    have other : x ≠ ' ' ∧ x ≠ '\t' ∧ x ≠ '\x0c' := by
      refine ⟨?_, ?_, ?_⟩ <;> rintro rfl <;> cases named
    cases fuel with
    | zero => exact reading
    | succ fuel =>
      have entered : c.enter.rest = x :: behind := (Cursor.rest_enter c).trans reading
      unfold skipBlanks
      simp [Cursor.peek?, entered, other]
  | succ blanks ih =>
    obtain ⟨fuel, rfl⟩ : ∃ k, fuel = k + 1 := ⟨fuel - 1, by omega⟩
    have entered : c.enter.rest = ' ' :: (List.replicate blanks ' ' ++ x :: behind) :=
      (Cursor.rest_enter c).trans reading
    unfold skipBlanks
    simp only [Cursor.peek?, entered, List.head?_cons]
    exact ih (Cursor.rest_step entered) (by omega)

theorem nameChars (further : n.all Text.isContinue = true) :
    ∀ x ∈ n.map Char.ofNat, Numeral.isNameChar x = true := by
  intro x member
  obtain ⟨c, inside, rfl⟩ := List.mem_map.mp member
  exact Text.isNameChar_of_isContinue (List.all_eq_true.mp further c inside)

/-- A word is read up to what does not belong to it. -/
theorem nameStep_word (identifier : Text.isIdentifier n = true)
    (reading : r.cursor.rest = n.map Char.ofNat ++ sep :: rest) (stop : Numeral.isNameChar sep = false) :
    ∃ t, r.nameStep = .token t { r with cursor := r.cursor.advance n.length } ∧ t.kind = wordKind n ∧
      Text.ofString t.text = wordText n := by
  have further := (Text.isIdentifier_iff.mp identifier).2
  have chars := nameChars further
  have word : r.cursor.rest.takeWhile Numeral.isNameChar = n.map Char.ofNat := by
    rw [reading, List.takeWhile_append_of_pos chars, List.takeWhile_cons_of_neg (by simp [stop]), List.append_nil]
  have own : Text.ofChars (n.map Char.ofNat) = n := Text.ofChars_map_ofNat further
  have fine : firstForeign? (n.map Char.ofNat) = none := (firstForeign?_eq_none.mpr (own.symm ▸ identifier)).2
  have read : r.cursor.rest.take n.length = n.map Char.ofNat := by
    rw [reading, ← List.length_map (f := Char.ofNat), List.take_left]
  have normal : (Text.normalize n).all Text.isContinue = true :=
    (Text.isIdentifier_iff.mp (Text.isIdentifier_normalize identifier)).2
  unfold nameStep wordKind wordText
  rw [word]
  simp only [fine, lexeme, List.length_map, own]
  split
  · exact ⟨_, rfl, rfl, by rw [read]; exact Text.ofString_toStringLossy further⟩
  · exact ⟨_, rfl, rfl, by rw [normalName, own]; exact Text.ofString_toStringLossy normal⟩

/-- No quotation mark is among what belongs to a word and the sign behind it, so that no string begins there. -/
theorem stringPrefix?_word {word : List Char} (chars : ∀ x ∈ word, Numeral.isNameChar x = true)
    (stop : Numeral.isNameChar sep = false) (unquoted : sep ≠ '\'' ∧ sep ≠ '"') :
    stringPrefix? (word ++ sep :: rest) = none := by
  -- The prefix of a string is at most three letters; what stands behind them here is in the word, or ends it.
  have letters : ((word ++ sep :: rest).takeWhile Char.isAlpha).length ≤ word.length := by
    have apart : sep.isAlpha = false := by
      refine Bool.eq_false_iff.mpr fun alpha => ?_
      rw [Numeral.isNameChar, Char.isAlphanum, alpha] at stop
      cases stop
    rw [List.takeWhile_append]
    split
    · exact Nat.le_of_eq (by rw [List.takeWhile_cons_of_neg (by simp [apart]), List.append_nil])
    · exact (List.takeWhile_sublist _).length_le
  have few : (((word ++ sep :: rest).takeWhile Char.isAlpha).take 3).length ≤ word.length :=
    Nat.le_trans (List.length_take_le' _ _) letters
  have quote {x : Char} (named : Numeral.isNameChar x = true) : x ≠ '\'' ∧ x ≠ '"' := by
    refine ⟨?_, ?_⟩ <;> rintro rfl <;> cases named
  obtain ⟨q, others, behind, other⟩ : ∃ q others,
      (word ++ sep :: rest).drop (((word ++ sep :: rest).takeWhile Char.isAlpha).take 3).length = q :: others ∧
        q ≠ '\'' ∧ q ≠ '"' := by
    rw [List.drop_append_of_le_length few]
    cases front : word.drop (((word ++ sep :: rest).takeWhile Char.isAlpha).take 3).length with
    | nil => exact ⟨sep, rest, rfl, unquoted⟩
    | cons x others =>
      have inside : x ∈ word := List.mem_of_mem_drop (front ▸ List.mem_cons_self)
      exact ⟨x, others ++ sep :: rest, rfl, quote (chars x inside)⟩
  unfold stringPrefix?
  dsimp only
  rw [behind]
  simp [other]

/-- What begins like a word and is no number and no string is read as a word. -/
theorem tokenStep_word {cursor : Cursor} {x : Char} {behind : List Char}
    (skipped : skipBlanks r.cursor r.cursor.rest.length = cursor) (reading : cursor.rest = x :: behind)
    (named : Numeral.isNameChar x = true) (digit : x.isDigit = false)
    (unprefixed : stringPrefix? (x :: behind) = none) :
    r.tokenStep = nameStep { r with cursor := cursor } := by
  have other : x ≠ '#' ∧ x ≠ '\n' ∧ x ≠ '\\' := by
    refine ⟨?_, ?_, ?_⟩ <;> rintro rfl <;> cases named
  rw [tokenStep, skipped]
  simp [reading, other, unprefixed, digit, named]

/-- An identifier in a line is read as one token. -/
theorem reads_word (inLine : r.InLine) (identifier : Text.isIdentifier n = true) (blanks : Nat)
    (reading : r.cursor.rest = List.replicate blanks ' ' ++ (n.map Char.ofNat ++ sep :: rest))
    (stop : Numeral.isNameChar sep = false) (unquoted : sep ≠ '\'' ∧ sep ≠ '"') :
    ∃ r', r.Reads (wordKind n) (wordText n) r' ∧ r'.InLine ∧ r'.cursor.rest = sep :: rest := by
  obtain ⟨start, further⟩ := Text.isIdentifier_iff.mp identifier
  have chars := nameChars further
  cases n with
  | nil => cases start
  | cons c others =>
    have named : Numeral.isNameChar (Char.ofNat c) = true := chars _ List.mem_cons_self
    have enough : blanks ≤ r.cursor.rest.length := by
      rw [reading, List.length_append, List.length_replicate]
      omega
    have skipped := rest_skipBlanks blanks reading named enough
    generalize made : skipBlanks r.cursor r.cursor.rest.length = cursor at skipped
    have step := tokenStep_word made skipped named (Text.isDigit_of_isStart start)
      (stringPrefix?_word chars stop unquoted)
    obtain ⟨t, word, kind, text⟩ := nameStep_word (r := { r with cursor := cursor }) identifier skipped stop
    have ends : (cursor.advance (c :: others).length).rest = sep :: rest := by
      rw [← List.length_map (f := Char.ofNat)]
      exact Cursor.rest_advance skipped
    refine ⟨{ r with cursor := cursor.advance (c :: others).length }, ⟨t, ?_, kind, text⟩, ⟨inLine.1, inLine.2⟩, ends⟩
    rw [inLine.next_eq, step, word]

/-- What is read next is one token, and reading goes on in one place. -/
theorem Reads.unique {k l : TokenKind} {s t : Text} {r₁ r₂ : Reader} (first : r.Reads k s r₁)
    (second : r.Reads l t r₂) : k = l ∧ s = t ∧ r₁ = r₂ := by
  obtain ⟨a, next, rfl, rfl⟩ := first
  obtain ⟨b, same, rfl, rfl⟩ := second
  cases next.symm.trans same
  exact ⟨rfl, rfl, rfl⟩

end Reader

/-- The words by which definitions are introduced. -/
def definitionWords : List Text :=
  ["class", "def"]

/-- A text is the heading of a definition of a name: in a line, and whatever follows, it is read as a word for
definitions and then as that name in its normal form. -/
def Text.Heads (line n : Text) : Prop :=
  ∀ (r : Reader) (more : List Char), r.InLine → r.cursor.rest = line.map Char.ofNat ++ more →
    ∃ word ∈ definitionWords, ∃ r' r'', r.Reads .keyword word r' ∧ r'.Reads .name (Text.normalize n) r''

section Heads

variable {word n tail : Text} {sep : CodePoint}

theorem isIdentifier_of_mem_definitionWords (defines : word ∈ definitionWords) :
    Text.isIdentifier word = true ∧ Text.isKeyword word = true := by
  revert word
  decide

/-- The two words of a heading are read one after the other. -/
theorem Reader.reads_heading {r : Reader} {more : List Char} (inLine : r.InLine) (defines : word ∈ definitionWords)
    (identifier : Text.isIdentifier n = true) (closes : sep = 40 ∨ sep = 58)
    (reading : r.cursor.rest = (word ++ 32 :: (n ++ sep :: tail)).map Char.ofNat ++ more) :
    ∃ r' r'', r.Reads .keyword word r' ∧ r'.Reads (wordKind n) (wordText n) r'' := by
  obtain ⟨spelled, reserved⟩ := isIdentifier_of_mem_definitionWords defines
  have sign : Numeral.isNameChar (Char.ofNat sep) = false ∧ Char.ofNat sep ≠ '\'' ∧ Char.ofNat sep ≠ '"' := by
    rcases closes with rfl | rfl <;> decide
  simp only [List.map_append, List.map_cons, List.append_assoc, List.cons_append] at reading
  obtain ⟨r', first, inside, behind⟩ := reads_word inLine spelled 0 reading (by decide) (by decide)
  obtain ⟨r'', second, -, -⟩ := reads_word inside identifier 1 behind sign.1 sign.2
  rw [wordKind, wordText, if_pos reserved, if_pos reserved] at first
  exact ⟨r', r'', first, second⟩

/-- A heading is one of its name exactly if that is legal. -/
theorem heads_iff (defines : word ∈ definitionWords) (identifier : Text.isIdentifier n = true)
    (closes : sep = 40 ∨ sep = 58) :
    Text.Heads (word ++ 32 :: (n ++ sep :: tail)) n ↔ Text.isLegalName n = true := by
  have legal : Text.isLegalName n = true ↔ Text.isKeyword n = false := by simp [Text.isLegalName, identifier]
  rw [legal]
  constructor
  · intro heads
    -- A reader in front of the heading has one way to read it, and the second token of this has the kind of the word.
    let r : Reader := ⟨⟨(word ++ 32 :: (n ++ sep :: tail)).map Char.ofNat, 1, 0, 0, 0, false⟩, false, [], 0, []⟩
    have reading : r.cursor.rest = (word ++ 32 :: (n ++ sep :: tail)).map Char.ofNat ++ [] := (List.append_nil _).symm
    obtain ⟨_, _, r₁, _, here, name⟩ := heads r [] ⟨rfl, rfl⟩ reading
    obtain ⟨r₂, _, again, read⟩ := Reader.reads_heading ⟨rfl, rfl⟩ defines identifier closes reading
    obtain ⟨-, -, rfl⟩ := here.unique again
    refine Bool.eq_false_iff.mpr fun reserved => ?_
    have kind := (name.unique read).1
    rw [Reader.wordKind, if_pos reserved] at kind
    cases kind
  · intro free r more inLine reading
    obtain ⟨r', r'', first, second⟩ := Reader.reads_heading inLine defines identifier closes reading
    have other := Bool.eq_false_iff.mp free
    rw [Reader.wordKind, Reader.wordText, if_neg other, if_neg other] at second
    exact ⟨word, defines, r', r'', first, second⟩

end Heads

/-- A class or a function that is not asynchronous declares a name behind a word. -/
inductive Stmt.Declares : Stmt → Text → Text → Prop
  | classDef {place n bases keywords decorators body} :
    Declares (.classDef place n bases keywords decorators body) "class" n
  | functionDef {place n params returns decorators body} :
    Declares (.functionDef place false n params returns decorators body) "def" n

namespace Stmt.Declares

variable {s : Stmt} {word n : Text}

theorem word_mem (declares : s.Declares word n) : word ∈ definitionWords := by
  cases declares <;> decide

theorem declaredName? (declares : s.Declares word n) : s.declaredName? = some n := by
  cases declares <;> rfl

/-- Among the lines of a declaration is one with its word and its name, in front of a parenthesis or a colon. -/
theorem heading (declares : s.Declares word n) {depth : Nat} {ls : List Text} (printed : s.lines depth = .ok ls) :
    ∃ sep tail, (sep = 40 ∨ sep = 58) ∧ indentLine depth (word ++ 32 :: (n ++ sep :: tail)) ∈ ls := by
  cases declares with
  | @classDef place n bases keywords decorators body =>
    rw [Stmt.lines] at printed
    obtain ⟨ds, _, printed⟩ := bind_eq_ok.mp printed
    obtain ⟨bs, _, printed⟩ := bind_eq_ok.mp printed
    obtain ⟨ks, _, printed⟩ := bind_eq_ok.mp printed
    obtain ⟨b, _, printed⟩ := bind_eq_ok.mp printed
    cases printed
    cases none : (bs ++ ks).isEmpty with
    | true => exact ⟨58, [], Or.inr rfl, by simp [Text.when, Text.ofString]⟩
    | false => exact ⟨40, Text.join ", " (bs ++ ks) ++ ")" ++ ":", Or.inl rfl, by simp [Text.when, Text.ofString]⟩
  | @functionDef place n params returns decorators body =>
    rw [Stmt.lines] at printed
    obtain ⟨ds, _, printed⟩ := bind_eq_ok.mp printed
    obtain ⟨ps, _, printed⟩ := bind_eq_ok.mp printed
    obtain ⟨result, _, printed⟩ := bind_eq_ok.mp printed
    obtain ⟨b, _, printed⟩ := bind_eq_ok.mp printed
    cases printed
    exact ⟨40, ps ++ ")" ++ result ++ ":", Or.inl rfl, by simp [Text.when, Text.ofString]⟩

end Stmt.Declares

end FluentRecords
