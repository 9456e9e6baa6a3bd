import FluentRecords.Proofs.Text.Stored
import FluentRecords.Settings.Basic

/-!
The characters of names. Whatever may stand in an identifier has a UTF-8 form, and in a JSON text it stands
for itself.
-/

namespace FluentRecords

theorem Text.isUnencodable_eq_false {c : Nat} :
    isUnencodable c = false ↔ (c < 0xD800 ∨ 0xDFFF < c) ∧ c ≤ 0x10FFFF := by
  simp only [isUnencodable, isSurrogate, Bool.or_eq_false_iff, Bool.and_eq_false_iff, decide_eq_false_iff_not,
    Nat.not_le, Nat.not_lt]

namespace Ranges

/-- What all intervals of a written table have is checked on its characters. -/
theorem all_ofString {s : String} {cs : List Char} {p : CodePoint × CodePoint → Bool} (chars : s = String.ofList cs)
    (each : ((words cs).map interval).all p = true) : (ofString s).all p = true := by
  subst chars
  rw [ofString, String.toList_ofList]
  exact each

/-- Whether an interval holds characters only: it keeps clear of the surrogates and ends in time. -/
def isEncodable (r : Nat × Nat) : Bool :=
  (r.2 < 0xD800 || 0xDFFF < r.1) && r.2 ≤ 0x10FFFF

theorem not_isUnencodable_of_contains {rs : Ranges} {c : Nat} (each : rs.all isEncodable = true)
    (inside : rs.contains c = true) : Text.isUnencodable c = false := by
  obtain ⟨⟨(low : Nat), (high : Nat)⟩, member, bounds⟩ := List.any_eq_true.mp inside
  have within : low ≤ c ∧ c ≤ high := by
    simpa only [Bool.and_eq_true, decide_eq_true_eq] using bounds
  have clear : (high < 0xD800 ∨ 0xDFFF < low) ∧ high ≤ 0x10FFFF := by
    simpa only [isEncodable, Bool.and_eq_true, Bool.or_eq_true, decide_eq_true_eq] using
      List.all_eq_true.mp each _ member
  refine Text.isUnencodable_eq_false.mpr ?_
  omega

end Ranges

namespace Text

theorem startRanges_encodable : startRanges.all Ranges.isEncodable = true :=
  Ranges.all_ofString (by rw [startTable]) (by decide +kernel)

theorem continueRanges_encodable : continueRanges.all Ranges.isEncodable = true :=
  Ranges.all_ofString (by rw [continueTable]) (by decide +kernel)

/-- What may stand in an identifier has a UTF-8 form. -/
theorem isContinue_encodable {c : Nat} (legal : isContinue c = true) : isUnencodable c = false := by
  by_cases ascii : c < 0x80
  · refine isUnencodable_eq_false.mpr ?_
    omega
  · simp only [isContinue, isStart, if_neg ascii, Bool.or_eq_true] at legal
    rcases legal with first | further
    · exact Ranges.not_isUnencodable_of_contains startRanges_encodable first
    · exact Ranges.not_isUnencodable_of_contains continueRanges_encodable further

/-- What may stand in an identifier is no control character, no quotation mark and no backslash. -/
theorem isContinue_unescaped {c : Nat} (legal : isContinue c = true) : 32 ≤ c ∧ c ≠ 34 ∧ c ≠ 92 := by
  by_cases ascii : c < 0x80
  · have letter : (65 ≤ c ∧ c ≤ 90 ∨ c = 95) ∨ (97 ≤ c ∧ c ≤ 122) ∨ 48 ≤ c ∧ c ≤ 57 := by
      simpa only [isContinue, isStart, if_pos ascii, Bool.or_eq_true, Bool.and_eq_true, decide_eq_true_eq, beq_iff_eq,
        or_assoc] using legal
    omega
  · omega

theorem isContinue_of_mem_legalName (n : LegalName) : ∀ c ∈ n.val, isContinue c = true := by
  have legal := n.property
  rw [isLegalName, Bool.and_eq_true] at legal
  cases shape : n.val with
  | nil => exact fun _ none => by cases none
  | cons c rest =>
    rw [shape, isIdentifier, Bool.and_eq_true] at legal
    exact List.forall_mem_cons.mpr ⟨isContinue_of_isStart legal.1.1, List.all_eq_true.mp legal.1.2⟩

theorem isContinue_of_mem_suffix (t : Suffix) : ∀ c ∈ t.val, isContinue c = true := by
  have valid := t.property
  rw [isSuffix, Bool.and_eq_true] at valid
  exact List.all_eq_true.mp valid.2

end Text

end FluentRecords
