import FluentRecords.Text.Basic

/-!
Similarity of short texts, for suggestions: the share of their characters that lie in common blocks, the
longest block first and then what is left and right of it.
-/

namespace FluentRecords.Text

/-- The number of characters that two texts begin with in common. -/
def commonPrefix : Text → Text → Nat
  | a :: s, b :: t => if a = b then commonPrefix s t + 1 else 0
  | _, _ => 0

/-- A common block: where it begins in either text, and its length. -/
structure Block where
  left : Nat
  right : Nat
  length : Nat

/-- The longest common block, the earliest in the first text and then in the second. -/
def longestBlock (s t : Text) : Block :=
  (List.range s.length).foldl (fun best i =>
    (List.range t.length).foldl (fun best j =>
      let n := commonPrefix (s.drop i) (t.drop j)
      if best.length < n then ⟨i, j, n⟩ else best) best) ⟨0, 0, 0⟩

/-- The number of characters in common blocks; every round finds a block, so the length of the first
text is fuel enough. -/
def commonCount : Nat → Text → Text → Nat
  | 0, _, _ => 0
  | fuel + 1, s, t =>
    let b := longestBlock s t
    if b.length = 0 then 0
    else
      commonCount fuel (s.take b.left) (t.take b.right) + b.length
        + commonCount fuel (s.drop (b.left + b.length)) (t.drop (b.right + b.length))

/-- The candidates that share at least three fifths of their characters with a text, at most three of
them, in alphabetical order. -/
def suggestions (t : Text) (candidates : List Text) : List Text :=
  let scored := candidates.filterMap fun c =>
    let common := 2 * commonCount c.length c t
    let total := c.length + t.length
    if 6 * total ≤ 10 * common then some (c, common, total) else none
  let better := fun (x y : Text × Nat × Nat) => decide (y.2.1 * x.2.2 ≤ x.2.1 * y.2.2)
  sort (((scored.mergeSort better).take 3).map (·.1))

end FluentRecords.Text
