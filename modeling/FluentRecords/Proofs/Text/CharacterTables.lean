import FluentRecords.Proofs.Text.Legal
import FluentRecords.Text.Compatibility

/-!
What the tables of characters say of each other. Decompositions and composites of code points that an identifier may
hold are ones that it may hold in the same place, and none that may begin one is a mark. All this is checked on the
characters of the tables, for which a class of code points is a number with a bit for each of them.
-/

namespace FluentRecords

namespace Ranges

/-- The number whose bits are set at the code points of the intervals. -/
def bits (rs : Ranges) : Nat :=
  rs.foldr (fun r n => n ||| (1 <<< (r.2 + 1 - r.1) - 1) <<< r.1) 0

theorem testBit_bits (rs : Ranges) (c : Nat) : rs.bits.testBit c = rs.contains c := by
  induction rs with
  | nil => simp [bits, contains]
  | cons r rest ih =>
    obtain ⟨(low : Nat), (high : Nat)⟩ := r
    have same : (decide (c ≥ low) && decide (c - low < high + 1 - low)) = (decide (low ≤ c) && decide (c ≤ high)) := by
      rw [Bool.eq_iff_iff]
      simp only [Bool.and_eq_true, decide_eq_true_eq]
      omega
    rw [bits, List.foldr_cons, Nat.testBit_or, Nat.testBit_shiftLeft, Nat.one_shiftLeft, Nat.testBit_two_pow_sub_one,
      same, ← bits, ih, Bool.or_comm]
    rfl

end Ranges

namespace Text

/-- The number for the intervals of a table, read from its characters. -/
def tableBits (cs : List Char) : Nat :=
  Ranges.bits ((Ranges.words cs).map Ranges.interval)

/-- What may begin an identifier by a table. -/
def isStartBy (starts : List Char) (c : CodePoint) : Bool :=
  if c < 0x80 then (65 ≤ c && c ≤ 90) || c == 95 || (97 ≤ c && c ≤ 122) else (tableBits starts).testBit c

/-- What may stand inside an identifier by two tables. -/
def isContinueBy (starts continues : List Char) (c : CodePoint) : Bool :=
  isStartBy starts c || (if c < 0x80 then 48 ≤ c && c ≤ 57 else (tableBits continues).testBit c)

theorem isStart_eq_by : isStart = isStartBy startTable.toList := by
  funext c
  rw [isStart, isStartBy, tableBits, Ranges.testBit_bits, startRanges, Ranges.ofString]

theorem isContinue_eq_by : isContinue = isContinueBy startTable.toList continueTable.toList := by
  funext c
  rw [isContinue, isContinueBy, isStart_eq_by, tableBits, Ranges.testBit_bits, continueRanges, Ranges.ofString]

/-- With code points of two classes, a text can be put in the place of another one: behind others, and in front if the
first code point of that belongs there. -/
def replaces (first further : CodePoint → Bool) (s t : Text) : Bool :=
  (!s.all further || t.all further) && (!s.head?.any first || t.head?.any first)

/-- Among the bits of a number, none of an interval is set. -/
def isClearIn (n : Nat) (r : CodePoint × CodePoint) : Bool :=
  (n >>> r.1) % 1 <<< (r.2 + 1 - r.1) == 0

theorem testBit_of_isClearIn {n low high c : Nat} (clear : isClearIn n (low, high) = true) (above : low ≤ c)
    (below : c ≤ high) : n.testBit c = false := by
  have bit := congrArg (Nat.testBit · (c - low)) (beq_iff_eq.mp clear)
  have within : c - low < high + 1 - low := by omega
  simpa [Nat.one_shiftLeft, Nat.testBit_mod_two_pow, within, Nat.add_sub_cancel' above] using bit

/-- What is said of written tables is checked on their characters. -/
theorem of_chars (check : List Char → List Char → List Char → Bool) {s t u : String} {cs ds es : List Char}
    (first : s = String.ofList cs) (second : t = String.ofList ds) (third : u = String.ofList es)
    (passed : check cs ds es = true) : check s.toList t.toList u.toList = true := by
  subst first second third
  simpa only [String.toList_ofList] using passed

set_option maxRecDepth 100000 in
theorem decompositions_replace : decompositions.all (fun e => replaces isStart isContinue [e.1] e.2) = true := by
  rw [isStart_eq_by, isContinue_eq_by, decompositions]
  exact of_chars
    (fun cs starts continues =>
      ((Ranges.words cs).map fun w => let e := equation w; (Ranges.numeral e.1, numerals e.2)).all fun e =>
        replaces (isStartBy starts) (isContinueBy starts continues) [e.1] e.2)
    (by rw [decompositionTable]) (by rw [startTable]) (by rw [continueTable]) (by decide +kernel)

set_option maxRecDepth 100000 in
theorem compositions_replace : compositions.all (fun e => replaces isStart isContinue e.1 [e.2]) = true := by
  rw [isStart_eq_by, isContinue_eq_by, compositions]
  exact of_chars
    (fun cs starts continues =>
      ((Ranges.words cs).map fun w => let e := equation w; (numerals e.1, Ranges.numeral e.2)).all fun e =>
        replaces (isStartBy starts) (isContinueBy starts continues) e.1 [e.2])
    (by rw [compositionTable]) (by rw [startTable]) (by rw [continueTable]) (by decide +kernel)

theorem combiningClasses_clear :
    combiningClasses.all (fun e => isClearIn (tableBits startTable.toList) e.1) = true := by
  rw [combiningClasses]
  exact of_chars
    (fun cs starts _ =>
      ((Ranges.words cs).map fun w => let e := equation w; (Ranges.interval e.1, Ranges.numeral e.2)).all fun e =>
        isClearIn (tableBits starts) e.1)
    (by rw [combiningTable]) (by rw [startTable]) (show startTable = String.ofList _ by rw [startTable])
    (by decide +kernel)

theorem hangul_listed :
    (startRanges.any fun r => r.1 ≤ 0x1100 && 0x11C2 ≤ r.2) = true ∧
      (startRanges.any fun r => r.1 ≤ 0xAC00 && 0xD7A3 ≤ r.2) = true := by
  rw [startRanges, Ranges.ofString, ← Bool.and_eq_true]
  exact of_chars
    (fun starts _ _ =>
      let rs := (Ranges.words starts).map Ranges.interval
      (rs.any fun r => r.1 ≤ 0x1100 && 0x11C2 ≤ r.2) && rs.any fun r => r.1 ≤ 0xAC00 && 0xD7A3 ≤ r.2)
    (by rw [startTable]) (show startTable = String.ofList _ by rw [startTable])
    (show startTable = String.ofList _ by rw [startTable]) (by decide +kernel)

end Text

end FluentRecords
