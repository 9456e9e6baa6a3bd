import FluentRecords.GeneratedFile
import FluentRecords.Proofs.Text.Legal

/-!
What a digest is taken of. The settings can be read off their JSON text, because no name holds a quotation mark,
and the parts of the input can be told apart, because no part before the source holds a zero byte. So the input
of a digest determines the settings and the source.
-/

namespace FluentRecords

/-- Lists are told apart up to a separator that is in neither of them. -/
theorem append_cons_inj_of_not_mem {α : Type} {x : α} {first second rest rest' : List α} (clear : x ∉ first)
    (clear' : x ∉ second) (same : first ++ x :: rest = second ++ x :: rest') : first = second ∧ rest = rest' := by
  rcases List.append_eq_append_iff.mp same with ⟨more, longer, tail⟩ | ⟨more, longer, tail⟩
  · cases more with
    | nil => exact ⟨(longer.trans (List.append_nil _)).symm, (List.cons.inj tail).2⟩
    | cons y more =>
      obtain ⟨rfl, _⟩ := List.cons.inj tail
      exact absurd (longer ▸ List.mem_append_right _ List.mem_cons_self) clear'
  · cases more with
    | nil => exact ⟨longer.trans (List.append_nil _), (List.cons.inj tail).2.symm⟩
    | cons y more =>
      obtain ⟨rfl, _⟩ := List.cons.inj tail
      exact absurd (longer ▸ List.mem_append_right _ List.mem_cons_self) clear

namespace Text

/-- A text is determined by its UTF-8 form. -/
theorem flatMap_encodeOne_inj {s t : Text} (encodable : ∀ c ∈ s, isUnencodable c = false)
    (encodable' : ∀ c ∈ t, isUnencodable c = false) (same : s.flatMap encodeOne = t.flatMap encodeOne) : s = t := by
  have read := decodeFrom_flatMap encodable 0
  rw [same, decodeFrom_flatMap encodable' 0] at read
  exact (Except.ok.inj read).symm

/-- Only the character zero has a zero byte in its UTF-8 form. -/
theorem zero_not_mem_encodeOne {c : Nat} (encodable : isUnencodable c = false) (positive : 0 < c) :
    0 ∉ encodeOne c := by
  have bound : c ≤ 0x10FFFF := (isUnencodable_eq_false.mp encodable).2
  have byte : ∀ n, 0 < n → n < 256 → (0 : UInt8) ≠ n.toUInt8 := by
    intro n above below same
    have value := congrArg UInt8.toNat same
    rw [toNat_toUInt8 below] at value
    exact absurd value (Nat.ne_of_lt above)
  have more : ∀ n, (0 : UInt8) ≠ (0x80 + n % 64).toUInt8 := fun n => byte _ (by omega) (by omega)
  by_cases one : c < 0x80
  · rw [encodeOne, if_pos one, List.mem_singleton]
    exact byte c positive (by omega)
  by_cases two : c < 0x800
  · rw [encodeOne, if_neg one, if_pos two]
    simp only [List.mem_cons, List.not_mem_nil, or_false, not_or]
    exact ⟨byte _ (by omega) (by omega), more _⟩
  by_cases three : c < 0x10000
  · rw [encodeOne, if_neg one, if_neg two, if_pos three]
    simp only [List.mem_cons, List.not_mem_nil, or_false, not_or]
    exact ⟨byte _ (by omega) (by omega), more _, more _⟩
  · rw [encodeOne, if_neg one, if_neg two, if_neg three]
    simp only [List.mem_cons, List.not_mem_nil, or_false, not_or]
    exact ⟨byte _ (by omega) (by omega), more _, more _, more _⟩

end Text

namespace Settings

theorem quoted_inj {t t' rest rest' : Text} (legal : ∀ c ∈ t, Text.isContinue c = true)
    (legal' : ∀ c ∈ t', Text.isContinue c = true) (same : t ++ 34 :: rest = t' ++ 34 :: rest') :
    t = t' ∧ rest = rest' :=
  append_cons_inj_of_not_mem (fun member => (Text.isContinue_unescaped (legal _ member)).2.1 rfl)
    (fun member => (Text.isContinue_unescaped (legal' _ member)).2.1 rfl) same

/-- A name in quotation marks is read off what follows, up to the value of the next key. -/
theorem member_inj {t t' key rest rest' : Text} (legal : ∀ c ∈ t, Text.isContinue c = true)
    (legal' : ∀ c ∈ t', Text.isContinue c = true)
    (same : t ++ 34 :: 44 :: 34 :: (key ++ 34 :: 58 :: 34 :: rest) =
      t' ++ 34 :: 44 :: 34 :: (key ++ 34 :: 58 :: 34 :: rest')) : t = t' ∧ rest = rest' := by
  obtain ⟨equal, tail⟩ := quoted_inj legal legal' same
  have key_rest := List.append_cancel_left (List.cons.inj (List.cons.inj tail).2).2
  exact ⟨equal, (List.cons.inj (List.cons.inj (List.cons.inj key_rest).2).2).2⟩

theorem truth_inj {b b' : Bool} {rest rest' : Text}
    (same : (if b then Text.ofString "true" else Text.ofString "false") ++ rest =
      (if b' then Text.ofString "true" else Text.ofString "false") ++ rest') : b = b' := by
  cases b with
  | true =>
    cases b' with
    | true => rfl
    | false => exact absurd (List.cons.inj same).1 (by decide)
  | false =>
    cases b' with
    | true => exact absurd (List.cons.inj same).1 (by decide)
    | false => rfl

/-- Settings are determined by their JSON text. -/
theorem json_inj {s s' : Settings} (same : s.json = s'.json) : s = s' := by
  have name : ∀ n : LegalName, ∀ c ∈ n.val, Text.isContinue c = true := Text.isContinue_of_mem_legalName
  simp only [json, List.append_assoc, List.cons_append, List.nil_append, List.append_cancel_left_eq, List.cons.injEq,
    true_and] at same
  obtain ⟨suffix, same⟩ := member_inj (Text.isContinue_of_mem_suffix _) (Text.isContinue_of_mem_suffix _) same
  obtain ⟨factory, same⟩ := member_inj (name _) (name _) same
  obtain ⟨finalizer, same⟩ := member_inj (name _) (name _) same
  obtain ⟨wrapper, same⟩ := member_inj (name _) (name _) same
  obtain ⟨activation, same⟩ := quoted_inj (name _) (name _) same
  have collect := truth_inj (List.append_cancel_left (List.cons.inj same).2)
  cases s
  cases s'
  cases Subtype.ext suffix
  cases Subtype.ext factory
  cases Subtype.ext finalizer
  cases Subtype.ext wrapper
  cases Subtype.ext activation
  cases collect
  rfl

/-- The JSON text of settings has a UTF-8 form, and no zero in it. -/
theorem json_encodable (s : Settings) : ∀ c ∈ s.json, Text.isUnencodable c = false ∧ 0 < c := by
  have legal : ∀ {c : Nat}, Text.isContinue c = true → Text.isUnencodable c = false ∧ 0 < c :=
    fun holds => ⟨Text.isContinue_encodable holds, Nat.lt_of_lt_of_le (by decide) (Text.isContinue_unescaped holds).1⟩
  have name : ∀ n : LegalName, ∀ c ∈ n.val, Text.isUnencodable c = false ∧ 0 < c :=
    fun n c member => legal (Text.isContinue_of_mem_legalName n c member)
  have suffix : ∀ c ∈ s.builderSuffix.val, Text.isUnencodable c = false ∧ 0 < c :=
    fun c member => legal (Text.isContinue_of_mem_suffix _ c member)
  have field : ∀ {key t : Text}, (∀ c ∈ key, Text.isUnencodable c = false ∧ 0 < c) →
      (∀ c ∈ t, Text.isUnencodable c = false ∧ 0 < c) →
        ∀ c ∈ [34] ++ key ++ [34, 58, 34] ++ t ++ [34, 44], Text.isUnencodable c = false ∧ 0 < c := by
    intro key t keyFine textFine
    simp only [List.forall_mem_append]
    exact ⟨⟨⟨⟨by decide, keyFine⟩, by decide⟩, textFine⟩, by decide⟩
  have truth : ∀ c ∈ (if s.collectMissing then Text.ofString "true" else Text.ofString "false"),
      Text.isUnencodable c = false ∧ 0 < c := by
    cases s.collectMissing with
    | true => decide
    | false => decide
  unfold json
  rw [List.forall_mem_append, List.forall_mem_append, List.forall_mem_append, List.forall_mem_append,
    List.forall_mem_append, List.forall_mem_append, List.forall_mem_append, List.forall_mem_append]
  exact ⟨⟨⟨⟨⟨⟨⟨⟨by decide, field (by decide) suffix⟩, field (by decide) (name _)⟩, field (by decide) (name _)⟩,
    field (by decide) (name _)⟩, field (by decide) (name _)⟩, by decide⟩, truth⟩, by decide⟩

end Settings

/-- The bytes of which a digest is taken determine all settings and the source: where two digests are equal though
settings or sources differ, the digest function itself has a collision. -/
theorem GeneratedFile.digestInput_eq_iff (s s' : Settings) (source source' : List UInt8) :
    digestInput s source = digestInput s' source' ↔ s = s' ∧ source = source' := by
  constructor
  · intro same
    have clear : ∀ s : Settings, (0 : UInt8) ∉ bytes s.json := by
      intro s member
      obtain ⟨c, inside, zero⟩ := List.mem_flatMap.mp member
      obtain ⟨encodable, positive⟩ := s.json_encodable c inside
      exact Text.zero_not_mem_encodeOne encodable positive zero
    simp only [digestInput, List.append_assoc, List.cons_append, List.append_cancel_left_eq, List.cons.injEq,
      true_and] at same
    obtain ⟨json, rest⟩ := append_cons_inj_of_not_mem (clear s) (clear s') same
    have texts := Text.flatMap_encodeOne_inj (fun c member => (s.json_encodable c member).1)
      (fun c member => (s'.json_encodable c member).1) json
    exact ⟨Settings.json_inj texts, rest⟩
  · rintro ⟨rfl, rfl⟩
    rfl

end FluentRecords
