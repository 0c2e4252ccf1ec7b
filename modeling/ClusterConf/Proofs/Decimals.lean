import ClusterConf.Number.Shortest
import Mathlib.Algebra.Group.Nat.Defs
set_option autoImplicit false

/-!
The digits that are found for a double. Main statement: the digits of a finite number other than
zero do not begin with a zero where others would have to follow it, whichever grid they are found
on.
-/
namespace ClusterConf
namespace Double

theorem fractionField_lt (d : Double) : d.fractionField < 2 ^ 52 := by
  have masked : d.fractionField ≤ 0xfffffffffffff := by
    rw [fractionField, UInt64.toNat_and]
    exact Nat.and_le_right
  omega

theorem exponentField_le (d : Double) : d.exponentField ≤ 0x7ff := by
  rw [exponentField, UInt64.toNat_and]
  exact Nat.and_le_right

theorem significand_lt (d : Double) : d.significand < 2 ^ 53 := by
  have fraction := fractionField_lt d
  have hidden : Nat.pow 2 52 = 2 ^ 52 := rfl
  rw [significand, hidden]
  split <;> omega

/-- Digits that need no zero between them and the point, or are more than one zero. -/
def Leads (p : Nat × Int) : Prop := 0 < p.1 ∨ p.2 ≤ 0

theorem leads_dropZeros (fuel : Nat) {c : Nat} {k : Int} (leads : Leads (c, k)) :
    Leads (dropZeros fuel c k) := by
  induction fuel generalizing c k with
  | zero => exact leads
  | succ fuel ih =>
    rw [dropZeros]
    split
    · rename_i ends
      simp only [Bool.and_eq_true, decide_eq_true_eq] at ends
      exact ih (.inl (by simp only; omega))
    · exact leads

/-- Two decimals, each by its digits and the exponent of the last one, have one value. -/
def SameValue (p q : Nat × Int) : Prop :=
  p.1 * 10 ^ p.2.toNat * 10 ^ (-q.2).toNat = q.1 * 10 ^ q.2.toNat * 10 ^ (-p.2).toNat

/-- A decimal lies in an interval. -/
def RoundingInterval.Holds (r : RoundingInterval) (p : Nat × Int) : Prop :=
  r.contains (p.1 * 10 ^ p.2.toNat) (10 ^ (-p.2).toNat) = true

theorem holds_of_nearestOnGrid? {r : RoundingInterval} {k : Int} {c : Nat}
    (found : r.nearestOnGrid? k = some c) : r.Holds (c, k) := by
  have chosen : ∀ first second, (if r.contains (first * Nat.pow 10 k.toNat)
      (Nat.pow 10 (-k).toNat) then some first else if r.contains (second * Nat.pow 10 k.toNat)
      (Nat.pow 10 (-k).toNat) then some second else none) = some c → r.Holds (c, k) := by
    intro first second found
    split at found
    · rename_i inside
      rwa [← Option.some.inj found]
    · split at found
      · rename_i inside
        rwa [← Option.some.inj found]
      · cases found
  unfold RoundingInterval.nearestOnGrid? at found
  simp only at found
  split at found <;> exact chosen _ _ found

section Interval

variable {r : RoundingInterval} (low : 0 < r.low)

include low

theorem contains_pos {num den : Nat} (unit : 0 < den) (inside : r.contains num den = true) :
    0 < num := by
  have least : r.low * den ≤ num * r.den := by
    rw [RoundingInterval.contains] at inside
    split at inside
    · simp only [Bool.and_eq_true, decide_eq_true_eq] at inside
      exact inside.1
    · simp only [Bool.and_eq_true, decide_eq_true_eq] at inside
      exact Nat.le_of_lt inside.1
  have some := Nat.mul_pos low unit
  exact Nat.pos_of_mul_pos_right (Nat.lt_of_lt_of_le some least)

theorem nearestOnGrid?_pos {k : Int} {c : Nat} (found : r.nearestOnGrid? k = some c) : 0 < c :=
  Nat.pos_of_mul_pos_right
    (contains_pos low (Nat.pow_pos (by decide)) (holds_of_nearestOnGrid? found))

/-- The digits are found on some grid, or are those of the finest one. -/
theorem shortest_cases (fuel : Nat) (k : Int) : 0 < (r.shortest fuel k).1 ∨
    r.shortest fuel k = (r.value * Nat.pow 10 (-(k - fuel)).toNat /
      (r.den * Nat.pow 10 (k - fuel).toNat), k - fuel) := by
  induction fuel generalizing k with
  | zero =>
    have same : k - ((0 : Nat) : Int) = k := by omega
    rw [same]
    exact .inr rfl
  | succ fuel ih =>
    have next : k - ((fuel + 1 : Nat) : Int) = k - 1 - (fuel : Int) := by omega
    rw [RoundingInterval.shortest, next]
    split
    · rename_i c found
      exact .inl (nearestOnGrid?_pos low found)
    · exact ih (k - 1)

end Interval

/-- A power of ten is estimated by the logarithms of base two, and never by far too great. -/
theorem pow_le_of_floorLogTen {num den k : Nat} (some : 0 < num)
    (bound : num.log2 < 1100) (below : (k : Int) + 17 = floorLogTen num den) (positive : 0 < k) :
    den * 10 ^ k ≤ num := by
  have fits : ∀ g : Int, (den * Nat.pow 10 g.toNat ≤ num * Nat.pow 10 (-g).toNat) →
      (k : Int) ≤ g → den * 10 ^ k ≤ num := by
    intro g atLeast less
    have none : (-g).toNat = 0 := by omega
    rw [none] at atLeast
    have power : 10 ^ k ≤ Nat.pow 10 g.toNat := Nat.pow_le_pow_right (by decide) (by omega)
    have one : num * Nat.pow 10 0 = num := Nat.mul_one num
    exact Nat.le_trans (Nat.mul_le_mul_left den power) (one ▸ atLeast)
  unfold floorLogTen at below
  simp only at below
  generalize estimated : ((num.log2 : Int) - (den.log2 : Int)) * 30103 / 100000 = guess at below
  split at below
  case isTrue above =>
    exact fits (guess + 1) (of_decide_eq_true above) (by omega)
  case isFalse =>
    split at below
    case isTrue exact =>
      exact fits guess (of_decide_eq_true exact) (by omega)
    case isFalse =>
      -- Ten to the third is less than two to the tenth, which leaves the estimate room enough.
      have room : den.log2 + 1 + 10 * ((k + 2) / 3) ≤ num.log2 := by omega
      have hundreds : 10 ^ k ≤ 2 ^ (10 * ((k + 2) / 3)) := by
        calc 10 ^ k ≤ 10 ^ (3 * ((k + 2) / 3)) := Nat.pow_le_pow_right (by decide) (by omega)
          _ = 1000 ^ ((k + 2) / 3) := by rw [Nat.pow_mul]
          _ ≤ 1024 ^ ((k + 2) / 3) := Nat.pow_le_pow_left (by decide) _
          _ = 2 ^ (10 * ((k + 2) / 3)) := by rw [Nat.pow_mul]
      calc den * 10 ^ k ≤ 2 ^ (den.log2 + 1) * 2 ^ (10 * ((k + 2) / 3)) :=
            Nat.mul_le_mul (Nat.le_of_lt Nat.lt_log2_self) hundreds
        _ = 2 ^ (den.log2 + 1 + 10 * ((k + 2) / 3)) := (Nat.pow_add ..).symm
        _ ≤ 2 ^ num.log2 := Nat.pow_le_pow_right (by decide) room
        _ ≤ num := Nat.log2_self_le (Nat.ne_of_gt some)

theorem leads_shortest {r : RoundingInterval} (low : 0 < r.low) (value : 0 < r.value)
    (unit : 0 < r.den) (bound : r.value.log2 < 1100) :
    Leads (r.shortest 17 (floorLogTen r.value r.den)) := by
  rcases shortest_cases low 17 (floorLogTen r.value r.den) with found | finest
  · exact .inl found
  · rw [finest]
    by_cases small : floorLogTen r.value r.den - (17 : Nat) ≤ 0
    · exact .inr small
    · obtain ⟨k, power⟩ := Int.eq_ofNat_of_zero_le (Int.le_of_not_le small)
      have fits := @pow_le_of_floorLogTen r.value r.den k value bound (by omega) (by omega)
      have none : (-(k : Int)).toNat = 0 := by omega
      refine .inl ?_
      rw [power, none, Int.toNat_natCast]
      exact Nat.div_pos (Nat.le_trans fits (Nat.le_of_eq (Nat.mul_one _).symm))
        (Nat.mul_pos unit (Nat.pow_pos (by decide)))

theorem significand_pos {d : Double} (finite : d.isFinite = true) (nonzero : d.isZero = false) :
    0 < d.significand := by
  rw [isZero, finite, Bool.true_and, beq_eq_false_iff_ne] at nonzero
  exact Nat.pos_of_ne_zero nonzero

theorem low_pos {d : Double} (finite : d.isFinite = true) (nonzero : d.isZero = false) :
    0 < d.roundingInterval.low := by
  have some := significand_pos finite nonzero
  refine Nat.mul_pos ?_ (Nat.pow_pos (by decide))
  split <;> omega

/-- Digits of a number that is not zero do not begin with a zero that another one would follow. -/
theorem leads_shortestDecimal {d : Double} (finite : d.isFinite = true)
    (nonzero : d.isZero = false) : Leads d.shortestDecimal := by
  have some := significand_pos finite nonzero
  have limit := exponentField_le d
  have exponent : (d.exponent - 2).toNat ≤ 970 := by
    rw [Double.exponent]
    split <;> omega
  have value : 0 < d.roundingInterval.value :=
    Nat.mul_pos (Nat.mul_pos (by decide) some) (Nat.pow_pos (by decide))
  have below : d.roundingInterval.value < 2 ^ (55 + (d.exponent - 2).toNat) := by
    have significand := significand_lt d
    calc d.roundingInterval.value = 4 * d.significand * 2 ^ (d.exponent - 2).toNat := rfl
      _ < 2 ^ 55 * 2 ^ (d.exponent - 2).toNat :=
        Nat.mul_lt_mul_of_pos_right (by omega) (Nat.pow_pos (by decide))
      _ = 2 ^ (55 + (d.exponent - 2).toNat) := (Nat.pow_add ..).symm
  have bound := (Nat.log2_lt (Nat.ne_of_gt value)).mpr below
  exact leads_dropZeros 20
    (leads_shortest (low_pos finite nonzero) value (Nat.pow_pos (by decide)) (by omega))

end Double
end ClusterConf
