import FluentRecords.Proofs.Outcome
import FluentRecords.Syntax.Token.Reader

/-!
Tokens have characters. Numerals, strings and operators that are read are not empty, so that reading goes on
behind them.
-/

namespace FluentRecords

namespace Numeral

variable {isDigit : Char → Bool} {kind : Text} {fault : Nat → List Char → ScanFault} {s t : Scan} {n read k : Nat}
  {cs rest : List Char}

/-! A scan does not go back. -/

theorem digits_le (run : digits isDigit fault read cs = .ok s) : read ≤ s.read := by
  fun_induction digits isDigit fault read cs with
  | case1 =>
    cases run
    exact Nat.le_refl _
  | case2 read c rest digit ih => exact Nat.le_of_succ_le (ih run)
  | case3 read c _ _ d rest digit ih => exact Nat.le_of_succ_le (Nat.le_of_succ_le (ih run))
  | case4 => cases run
  | case5 => cases run
  | case6 =>
    cases run
    exact Nat.le_refl _

theorem finish_le (run : finish kind s = .ok n) : s.read ≤ n := by
  unfold finish at run
  split at run
  · cases run
    exact Nat.le_refl _
  · split at run
    · cases run
    · cases run
      exact Nat.le_refl _

theorem suffix_le (run : suffix s = .ok n) : s.read ≤ n := by
  unfold suffix at run
  split at run
  · split at run
    · exact Nat.le_of_succ_le (finish_le run)
    · exact finish_le run
  · exact finish_le run

theorem digits_suffix_le (run : digits isDigit fault read cs >>= suffix = .ok n) : read ≤ n := by
  obtain ⟨s, before, behind⟩ := bind_eq_ok.mp run
  exact Nat.le_trans (digits_le before) (suffix_le behind)

theorem exponent_le (run : exponent s = .ok n) : s.read ≤ n := by
  unfold exponent at run
  split at run
  · split at run
    · split at run
      · split at run
        · split at run
          · split at run
            · exact Nat.le_trans (Nat.le_add_right _ 3) (digits_suffix_le run)
            · cases run
          · cases run
        · split at run
          · exact Nat.le_trans (Nat.le_add_right _ 2) (digits_suffix_le run)
          · exact finish_le run
      · exact finish_le run
    · exact suffix_le run
  · exact suffix_le run

theorem fraction_le (run : fraction s = .ok n) : s.read ≤ n := by
  unfold fraction at run
  split at run
  · split at run
    · obtain ⟨t, before, behind⟩ := bind_eq_ok.mp run
      exact Nat.le_of_succ_le (Nat.le_trans (digits_le before) (exponent_le behind))
    · exact exponent_le run
  · exact exponent_le run

theorem afterWhole_le (run : afterWhole s = .ok n) : s.read ≤ n := by
  unfold afterWhole at run
  split at run
  · exact Nat.le_of_succ_le (fraction_le run)
  · exact exponent_le run

theorem based_le (run : based kind isDigit s = .ok n) : s.read ≤ n := by
  unfold based at run
  dsimp only at run
  split at run
  · split at run
    · obtain ⟨u, before, behind⟩ := bind_eq_ok.mp run
      have started : s.read ≤ u.read := by
        have counted := digits_le before
        split at counted
        · exact Nat.le_of_succ_le (Nat.le_of_succ_le counted)
        · exact Nat.le_of_succ_le counted
      refine Nat.le_trans started ?_
      split at behind
      · split at behind
        · cases behind
        · exact finish_le behind
      · exact finish_le behind
    · cases run
  · cases run

theorem zeros_le (run : zeros read cs = .ok s) : read ≤ s.read := by
  fun_induction zeros read cs with
  | case1 =>
    cases run
    exact Nat.le_refl _
  | case2 read c rest zero ih => exact Nat.le_of_succ_le (ih run)
  | case3 read c _ _ d rest zero ih => exact Nat.le_of_succ_le (Nat.le_of_succ_le (ih run))
  | case4 =>
    cases run
    exact Nat.le_succ _
  | case5 => cases run
  | case6 => cases run
  | case7 =>
    cases run
    exact Nat.le_refl _

theorem leadingZero_pos (run : leadingZero cs = .ok n) : 0 < n := by
  obtain ⟨z, before, behind⟩ := bind_eq_ok.mp run
  refine Nat.lt_of_lt_of_le (zeros_le before) ?_
  split at behind
  · split at behind
    · obtain ⟨s, digits, behind⟩ := bind_eq_ok.mp behind
      split at behind
      · exact Nat.le_of_succ_le (Nat.le_trans (digits_le digits) (afterWhole_le behind))
      · cases behind
    · exact afterWhole_le behind
  · exact afterWhole_le behind

/-- A numeral that begins with a digit or a point has characters. -/
theorem scan_pos {c : Char} (first : c.isDigit = true ∨ c = '.') (run : scan (c :: rest) = .ok n) : 0 < n := by
  unfold scan at run
  split at run
  · exact fraction_le run
  · split at run
    · exact Nat.lt_of_lt_of_le (Nat.succ_pos 1) (based_le run)
    · split at run
      · exact Nat.lt_of_lt_of_le (Nat.succ_pos 1) (based_le run)
      · split at run
        · exact Nat.lt_of_lt_of_le (Nat.succ_pos 1) (based_le run)
        · exact leadingZero_pos run
  · cases run
    exact Nat.one_pos
  · rename_i other _ _
    obtain ⟨s, before, behind⟩ := bind_eq_ok.mp run
    refine Nat.lt_of_lt_of_le ?_ (afterWhole_le behind)
    rcases first with digit | rfl
    · rw [digits.eq_def] at before
      dsimp only at before
      rw [if_pos digit] at before
      exact digits_le before
    · exact absurd rfl (other rest)

end Numeral

namespace Reader

theorem stringLength_le (quote : Char) (size run read : Nat) (cs : List Char) :
    read ≤ (stringLength quote size run read cs).1 := by
  fun_induction stringLength quote size run read cs with
  | case1 => exact Nat.le_refl _
  | case2 => exact Nat.le_succ _
  | case3 run read c rest quoted more ih => exact Nat.le_of_succ_le ih
  | case4 => exact Nat.le_refl _
  | case5 run read c _ _ _ d rest ih => exact Nat.le_of_succ_le (Nat.le_of_succ_le ih)
  | case6 => exact Nat.le_succ _
  | case7 run read c rest _ _ _ ih => exact Nat.le_of_succ_le ih

/-- A string that is closed has characters. -/
theorem stringExtent_pos {cs : List Char} (closed : (stringExtent cs).2.1 = true) : 0 < (stringExtent cs).1 := by
  unfold stringExtent at closed ⊢
  split
  · split
    · split
      · split
        · exact Nat.lt_of_lt_of_le (Nat.succ_pos 2) (stringLength_le ..)
        · exact Nat.succ_pos 1
      · exact Nat.succ_pos 1
    · exact Nat.lt_of_lt_of_le Nat.one_pos (stringLength_le ..)
  · rename_i short
    split at closed
    · exact absurd rfl (short _ _ _)
    · cases closed

theorem longOperators_pos : ∀ op ∈ longOperators, 0 < op.length := by
  decide

end Reader

end FluentRecords
