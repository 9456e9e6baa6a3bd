import FluentRecords.Text.Utf8

/-!
Texts that were written to a file and are read again. A text that has a UTF-8 form is decoded from it, and
reading keeps a text as it is exactly if it holds no carriage return.
-/

namespace FluentRecords

namespace Text

theorem toNat_toUInt8 {n : Nat} (small : n < 256) : n.toUInt8.toNat = n :=
  UInt8.toNat_ofNat_of_lt' small

theorem isContinuationByte_of_lt {n : Nat} (small : n < 64) : isContinuationByte (0x80 + n) = true := by
  simp only [isContinuationByte, Bool.and_eq_true, decide_eq_true_eq]
  omega

theorem isSecondByte_of {lead n : Nat} (small : n < 64) (e0 : lead = 0xE0 → 0x20 ≤ n) (ed : lead = 0xED → n < 0x20)
    (f0 : lead = 0xF0 → 0x10 ≤ n) (f4 : lead = 0xF4 → n < 0x10) : isSecondByte lead (0x80 + n) = true := by
  simp only [isSecondByte, isContinuationByte_of_lt small, Bool.true_and, Bool.and_eq_true, Bool.not_eq_true',
    Bool.and_eq_false_iff, beq_eq_false_iff_ne, decide_eq_false_iff_not]
  omega

theorem decodeLead_one {lead : Nat} (one : lead < 0x80) (rest : List UInt8) :
    decodeLead lead rest = .ok (lead, 1) := by
  rw [decodeLead, if_pos one]

theorem decodeLead_two {a b : Nat} (lower : 2 ≤ a) (upper : a < 32) (small : b < 64) (rest : List UInt8) :
    decodeLead (0xC0 + a) ((0x80 + b).toUInt8 :: rest) = .ok (a * 64 + b, 2) := by
  have second : isSecondByte (0xC0 + a) (0x80 + b) = true :=
    isSecondByte_of small (by omega) (by omega) (by omega) (by omega)
  have value : (0xC0 + a - 0xC0) * 64 + (0x80 + b - 0x80) = a * 64 + b := by omega
  rw [decodeLead, if_neg (by omega), if_neg (by simp; omega), List.take_succ_cons, List.map_cons,
    toNat_toUInt8 (by omega)]
  simp only [second, Bool.not_true, Bool.false_eq_true, if_false]
  rw [if_pos (by omega), value]

theorem decodeLead_three {a b c : Nat} (upper : a < 16) (smallB : b < 64) (smallC : c < 64)
    (e0 : a = 0 → 0x20 ≤ b) (ed : a = 13 → b < 0x20) (rest : List UInt8) :
    decodeLead (0xE0 + a) ((0x80 + b).toUInt8 :: (0x80 + c).toUInt8 :: rest) = .ok (a * 4096 + b * 64 + c, 3) := by
  have second : isSecondByte (0xE0 + a) (0x80 + b) = true :=
    isSecondByte_of smallB (by omega) (by omega) (by omega) (by omega)
  have value : (0xE0 + a - 0xE0) * 4096 + (0x80 + b - 0x80) * 64 + (0x80 + c - 0x80) = a * 4096 + b * 64 + c := by
    omega
  rw [decodeLead, if_neg (by omega), if_neg (by simp; omega), List.take_succ_cons, List.take_succ_cons,
    List.map_cons, List.map_cons, toNat_toUInt8 (by omega), toNat_toUInt8 (by omega)]
  simp only [second, isContinuationByte_of_lt smallC, Bool.not_true, Bool.false_eq_true, if_false]
  rw [if_neg (by omega), if_pos (by omega), value]

theorem decodeLead_four {a b c d : Nat} (upper : a < 5) (smallB : b < 64) (smallC : c < 64) (smallD : d < 64)
    (f0 : a = 0 → 0x10 ≤ b) (f4 : a = 4 → b < 0x10) (rest : List UInt8) :
    decodeLead (0xF0 + a) ((0x80 + b).toUInt8 :: (0x80 + c).toUInt8 :: (0x80 + d).toUInt8 :: rest) =
      .ok (a * 262144 + b * 4096 + c * 64 + d, 4) := by
  have second : isSecondByte (0xF0 + a) (0x80 + b) = true :=
    isSecondByte_of smallB (by omega) (by omega) (by omega) (by omega)
  have value : (0xF0 + a - 0xF0) * 262144 + (0x80 + b - 0x80) * 4096 + (0x80 + c - 0x80) * 64 + (0x80 + d - 0x80) =
      a * 262144 + b * 4096 + c * 64 + d := by
    omega
  rw [decodeLead, if_neg (by omega), if_neg (by simp; omega), List.take_succ_cons, List.take_succ_cons,
    List.take_succ_cons, List.map_cons, List.map_cons, List.map_cons, toNat_toUInt8 (by omega),
    toNat_toUInt8 (by omega), toNat_toUInt8 (by omega)]
  simp only [second, isContinuationByte_of_lt smallC, isContinuationByte_of_lt smallD, Bool.not_true,
    Bool.false_eq_true, if_false]
  rw [if_neg (by omega), if_neg (by omega), value]

/-- The bytes of a character decode to it, whatever follows them. -/
theorem decodeLead_encodeOne {c : Nat} (encodable : isUnencodable c = false) (rest : List UInt8) :
    ∃ b bs, encodeOne c = b :: bs ∧ decodeLead b.toNat (bs ++ rest) = .ok (c, bs.length + 1) := by
  have range : (c < 0xD800 ∨ 0xDFFF < c) ∧ c ≤ 0x10FFFF := by
    simpa only [isUnencodable, isSurrogate, Bool.or_eq_false_iff, Bool.and_eq_false_iff, decide_eq_false_iff_not,
      Nat.not_le, Nat.not_lt] using encodable
  have mod : ∀ n, n % 64 < 64 := fun n => Nat.mod_lt n (by decide)
  by_cases one : c < 0x80
  · have bytes : encodeOne c = [c.toUInt8] := by
      rw [encodeOne, if_pos one]
    refine ⟨_, _, bytes, ?_⟩
    rw [toNat_toUInt8 (by omega), decodeLead_one one]
    rfl
  by_cases two : c < 0x800
  · have bytes : encodeOne c = [(0xC0 + c / 64).toUInt8, (0x80 + c % 64).toUInt8] := by
      rw [encodeOne, if_neg one, if_pos two]
    have value : c / 64 * 64 + c % 64 = c := by omega
    refine ⟨_, _, bytes, ?_⟩
    rw [toNat_toUInt8 (by omega), List.cons_append, decodeLead_two (by omega) (by omega) (mod _), value]
    rfl
  by_cases three : c < 0x10000
  · have bytes : encodeOne c =
        [(0xE0 + c / 4096).toUInt8, (0x80 + c / 64 % 64).toUInt8, (0x80 + c % 64).toUInt8] := by
      rw [encodeOne, if_neg one, if_neg two, if_pos three]
    have value : c / 4096 * 4096 + c / 64 % 64 * 64 + c % 64 = c := by omega
    refine ⟨_, _, bytes, ?_⟩
    rw [toNat_toUInt8 (by omega), List.cons_append, List.cons_append,
      decodeLead_three (by omega) (mod _) (mod _) (by omega) (by omega), value]
    rfl
  · have bytes : encodeOne c = [(0xF0 + c / 262144).toUInt8, (0x80 + c / 4096 % 64).toUInt8,
        (0x80 + c / 64 % 64).toUInt8, (0x80 + c % 64).toUInt8] := by
      rw [encodeOne, if_neg one, if_neg two, if_neg three]
    have value : c / 262144 * 262144 + c / 4096 % 64 * 4096 + c / 64 % 64 * 64 + c % 64 = c := by omega
    refine ⟨_, _, bytes, ?_⟩
    rw [toNat_toUInt8 (by omega), List.cons_append, List.cons_append, List.cons_append,
      decodeLead_four (by omega) (mod _) (mod _) (mod _) (by omega) (by omega), value]
    rfl

/-- The bytes that belong to the character before are passed over. -/
theorem decodeFrom_skip (position : Nat) (bs rest : List UInt8) :
    decodeFrom position bs.length (bs ++ rest) = decodeFrom (position + bs.length) 0 rest := by
  induction bs generalizing position with
  | nil => rfl
  | cons b bs ih =>
    rw [List.cons_append, List.length_cons, decodeFrom, ih, Nat.add_right_comm, Nat.add_assoc]

theorem encodeFault?_eq_none {start : Nat} {t : Text} :
    encodeFault? start t = none ↔ ∀ c ∈ t, isUnencodable c = false := by
  induction t generalizing start with
  | nil => simp [encodeFault?]
  | cons c rest ih =>
    cases first : isUnencodable c with
    | true => simp [encodeFault?, first]
    | false => simp [encodeFault?, first, ih]

/-- The UTF-8 form of a text decodes to the text. -/
theorem decodeFrom_flatMap {t : Text} (encodable : ∀ c ∈ t, isUnencodable c = false) (position : Nat) :
    decodeFrom position 0 (t.flatMap encodeOne) = .ok t := by
  induction t generalizing position with
  | nil => rfl
  | cons c rest ih =>
    obtain ⟨b, bs, bytes, lead⟩ := decodeLead_encodeOne (encodable c List.mem_cons_self) (rest.flatMap encodeOne)
    rw [List.flatMap_cons, bytes, List.cons_append, decodeFrom, lead]
    simp only [Nat.add_sub_cancel]
    rw [decodeFrom_skip, ih fun c member => encodable c (List.mem_cons_of_mem _ member)]
    rfl

/-- A text without surrogates has a UTF-8 form. -/
theorem encode_of_encodable {t : Text} (encodable : ∀ c ∈ t, isUnencodable c = false) :
    encode t = .ok (t.flatMap encodeOne) := by
  rw [encode, encodeFault?_eq_none.mpr encodable]

theorem decode_encode {t : Text} {bs : List UInt8} (encoded : encode t = .ok bs) : decode bs = .ok t := by
  unfold encode at encoded
  split at encoded
  · cases encoded
  · rename_i none
    cases encoded
    exact decodeFrom_flatMap (encodeFault?_eq_none.mp none) 0

/-- Reading keeps a text without carriage returns, and no other. -/
theorem lineFeeds_eq_self_iff (t : Text) : t.lineFeeds = t ↔ 13 ∉ t := by
  induction t using lineFeeds.induct with
  | case1 => simp [lineFeeds]
  | case2 rest ih => simp [lineFeeds]
  | case3 rest other ih =>
    rw [lineFeeds]
    · simp
    · exact other
  | case4 c rest notPair notReturn ih =>
    rw [lineFeeds]
    · simp [ih, Ne.symm notReturn]
    · exact notPair
    · exact notReturn

end Text

end FluentRecords
