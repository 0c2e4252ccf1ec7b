set_option autoImplicit false

/-!
Classes of characters as ranges of code points.
-/
namespace ClusterConf.Text

/-- Whether a number lies in one of some ranges, ends included. -/
def inRanges (n : Nat) (ranges : List (Nat × Nat)) : Bool :=
  ranges.any fun (first, last) => first ≤ n && n ≤ last

/-- A number lies in the ranges of two lists together if it does in those of one of them. -/
theorem inRanges_append (n : Nat) (as bs : List (Nat × Nat)) :
    inRanges n (as ++ bs) = (inRanges n as || inRanges n bs) := by
  simp [inRanges]

end ClusterConf.Text
