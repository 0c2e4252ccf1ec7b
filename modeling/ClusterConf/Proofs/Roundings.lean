import ClusterConf.Proofs.Decimals
import Mathlib.Tactic.Ring
set_option autoImplicit false

/-!
The reals that round to one double. Main statements: the shortest decimal of a double lies in its
rounding interval, for which seventeen digits suffice, and no two doubles of one sign share a
quotient in their rounding intervals.
-/

namespace ClusterConf
namespace Double

/-- A power of ten by the estimate of its exponent from a power of two, one less than estimated, is
not too great. -/
theorem pow_estimate (l : Int) (low : -1100 ≤ l) (high : l ≤ 1100) :
    2 ^ (1 - l).toNat * 10 ^ (l * 30103 / 100000 - 1).toNat ≤
      2 ^ (l - 1).toNat * 10 ^ (-(l * 30103 / 100000 - 1)).toNat := by
  have every : ∀ i : Fin 2201, 
      2 ^ (1 - ((i.val : Int) - 1100)).toNat *
          10 ^ (((i.val : Int) - 1100) * 30103 / 100000 - 1).toNat ≤
        2 ^ (((i.val : Int) - 1100) - 1).toNat *
          10 ^ (-(((i.val : Int) - 1100) * 30103 / 100000 - 1)).toNat := by
    decide +kernel
  have here := every ⟨(l + 1100).toNat, by omega⟩
  have same : (((l + 1100).toNat : Nat) : Int) - 1100 = l := by omega
  simp only [same] at here
  exact here

/-- The power of ten that is found for a quotient is not greater than it. -/
theorem floorLogTen_le {num den : Nat} (positive : 0 < num) (bound : num.log2 ≤ 1100)
    (bound' : den.log2 ≤ 1100) :
    den * 10 ^ (floorLogTen num den).toNat ≤ num * 10 ^ (-floorLogTen num den).toNat := by
  unfold floorLogTen
  simp only
  generalize estimated : ((num.log2 : Int) - (den.log2 : Int)) * 30103 / 100000 = guess
  split
  case isTrue above => exact of_decide_eq_true above
  case isFalse =>
    split
    case isTrue exact => exact of_decide_eq_true exact
    case isFalse =>
      have estimate := pow_estimate ((num.log2 : Int) - (den.log2 : Int)) (by omega) (by omega)
      rw [estimated] at estimate
      -- The powers of two around both numbers, over what they have in common.
      let common := min num.log2 (den.log2 + 1)
      have numerator : 2 ^ common * 2 ^ ((num.log2 : Int) - den.log2 - 1).toNat ≤ num := by
        rw [← Nat.pow_add]
        have split : common + ((num.log2 : Int) - den.log2 - 1).toNat = num.log2 := by omega
        rw [split]
        exact Nat.log2_self_le (Nat.ne_of_gt positive)
      have denominator : den ≤ 2 ^ common * 2 ^ (1 - ((num.log2 : Int) - den.log2)).toNat := by
        rw [← Nat.pow_add]
        have split : common + (1 - ((num.log2 : Int) - den.log2)).toNat = den.log2 + 1 := by omega
        rw [split]
        exact Nat.le_of_lt Nat.lt_log2_self
      calc den * 10 ^ (guess - 1).toNat
          ≤ 2 ^ common * 2 ^ (1 - ((num.log2 : Int) - den.log2)).toNat * 10 ^ (guess - 1).toNat :=
            Nat.mul_le_mul_right _ denominator
        _ = 2 ^ common * (2 ^ (1 - ((num.log2 : Int) - den.log2)).toNat * 10 ^ (guess - 1).toNat) :=
            Nat.mul_assoc ..
        _ ≤ 2 ^ common * (2 ^ ((num.log2 : Int) - den.log2 - 1).toNat *
              10 ^ (-(guess - 1)).toNat) := Nat.mul_le_mul_left _ estimate
        _ = 2 ^ common * 2 ^ ((num.log2 : Int) - den.log2 - 1).toNat * 10 ^ (-(guess - 1)).toNat :=
            (Nat.mul_assoc ..).symm
        _ ≤ num * 10 ^ (-(guess - 1)).toNat := Nat.mul_le_mul_right _ numerator

section Interval

variable {r : RoundingInterval}

theorem contains_iff {num den : Nat} : r.contains num den = true ↔
    (r.low * den ≤ num * r.den ∧ num * r.den ≤ r.high * den) ∧
      (r.closed = false → r.low * den < num * r.den ∧ num * r.den < r.high * den) := by
  unfold RoundingInterval.contains
  cases r.closed with
  | true => simp
  | false =>
    simp only [Bool.false_eq_true, if_false, Bool.and_eq_true, decide_eq_true_eq, true_imp_iff]
    omega

/-- An end of an interval is compared alike with two forms of one quotient. -/
theorem cross_le_iff {num den num' den' : Nat} (unit : 0 < den) (unit' : 0 < den')
    (same : num * den' = num' * den) (a b : Nat) :
    (a * den ≤ num * b ↔ a * den' ≤ num' * b) ∧ (num * b ≤ a * den ↔ num' * b ≤ a * den') := by
  have left : a * den * den' = a * den' * den := Nat.mul_right_comm ..
  have right : num * b * den' = num' * b * den := by
    rw [Nat.mul_right_comm, same, Nat.mul_right_comm]
  constructor
  · rw [← Nat.mul_le_mul_right_iff unit', left, right, Nat.mul_le_mul_right_iff unit]
  · rw [← Nat.mul_le_mul_right_iff unit', left, right, Nat.mul_le_mul_right_iff unit]

theorem contains_congr {num den num' den' : Nat} (unit : 0 < den) (unit' : 0 < den')
    (same : num * den' = num' * den) : r.contains num den = r.contains num' den' := by
  have cross := cross_le_iff unit unit' same
  rw [Bool.eq_iff_iff, contains_iff, contains_iff]
  simp only [← Nat.not_le, (cross _ _).1, (cross _ _).2]

theorem holds_congr {p q : Nat × Int} (same : SameValue p q) : r.Holds p ↔ r.Holds q := by
  have power : ∀ k : Int, 0 < 10 ^ k.toNat := fun k => Nat.pow_pos (by decide)
  rw [RoundingInterval.Holds, RoundingInterval.Holds, contains_congr (power _) (power _) same]

theorem sameValue_shift {c : Nat} {k : Int} (ends : c % 10 = 0) :
    SameValue (c / 10, k + 1) (c, k) := by
  have digits : c / 10 * 10 = c := by omega
  unfold SameValue
  simp only
  by_cases whole : 0 ≤ k
  · have up : (k + 1).toNat = k.toNat + 1 := by omega
    have down : (-(k + 1)).toNat = (-k).toNat := by omega
    rw [up, down, Nat.pow_succ', ← Nat.mul_assoc, digits]
  · have up : (k + 1).toNat = 0 := by omega
    have here : k.toNat = 0 := by omega
    have down : (-k).toNat = (-(k + 1)).toNat + 1 := by omega
    rw [up, here, down, Nat.pow_succ', Nat.pow_zero, Nat.mul_one, Nat.mul_one, ← Nat.mul_assoc,
      digits]

theorem holds_dropZeros_iff (fuel c : Nat) (k : Int) :
    r.Holds (dropZeros fuel c k) ↔ r.Holds (c, k) := by
  induction fuel generalizing c k with
  | zero => rfl
  | succ fuel ih =>
    rw [dropZeros]
    split
    · rename_i ends
      simp only [Bool.and_eq_true, decide_eq_true_eq] at ends
      rw [ih]
      exact holds_congr (sameValue_shift ends.1)
    · rfl

/-- If one of the grids that are tried has a point in the interval, then such a point is found. -/
theorem holds_shortest {fuel j : Nat} {k : Int} (tried : j < fuel)
    (some : (r.nearestOnGrid? (k - j)).isSome = true) : r.Holds (r.shortest fuel k) := by
  induction fuel generalizing j k with
  | zero => omega
  | succ fuel ih =>
    rw [RoundingInterval.shortest]
    cases found : r.nearestOnGrid? k with
    | some c => exact holds_of_nearestOnGrid? found
    | none =>
      cases j with
      | zero =>
        have here : k - ((0 : Nat) : Int) = k := by omega
        rw [here, found] at some
        cases some
      | succ j =>
        have next : k - ((j + 1 : Nat) : Int) = k - 1 - (j : Int) := by omega
        rw [next] at some
        exact ih (Nat.lt_of_succ_lt_succ tried) some

/-- A grid whose unit is less than twice the distance of the value from either end of the interval
has a point inside. -/
theorem nearestOnGrid?_isSome {k : Int} (unit : 0 < r.den)
    (below : 2 * (r.low * 10 ^ (-k).toNat) + r.den * 10 ^ k.toNat <
      2 * (r.value * 10 ^ (-k).toNat))
    (above : 2 * (r.value * 10 ^ (-k).toNat) + r.den * 10 ^ k.toNat <
      2 * (r.high * 10 ^ (-k).toNat)) : (r.nearestOnGrid? k).isSome = true := by
  have step : 0 < r.den * 10 ^ k.toNat := Nat.mul_pos unit (Nat.pow_pos (by decide))
  have power : ∀ n, Nat.pow 10 n = 10 ^ n := fun _ => rfl
  have inside : ∀ c, r.low * 10 ^ (-k).toNat < r.den * 10 ^ k.toNat * c →
      r.den * 10 ^ k.toNat * c < r.high * 10 ^ (-k).toNat →
      r.contains (c * 10 ^ k.toNat) (10 ^ (-k).toNat) = true := by
    intro c low high
    have point : c * 10 ^ k.toNat * r.den = r.den * 10 ^ k.toNat * c := by
      rw [Nat.mul_comm c, Nat.mul_right_comm, Nat.mul_comm (10 ^ k.toNat) r.den]
    rw [contains_iff, point]
    exact ⟨⟨Nat.le_of_lt low, Nat.le_of_lt high⟩, fun _ => ⟨low, high⟩⟩
  unfold RoundingInterval.nearestOnGrid?
  simp only [power]
  have parts := Nat.div_add_mod (r.value * 10 ^ (-k).toNat) (r.den * 10 ^ k.toNat)
  have rest := Nat.mod_lt (r.value * 10 ^ (-k).toNat) step
  have next := Nat.mul_add_one (r.den * 10 ^ k.toNat)
    (r.value * 10 ^ (-k).toNat / (r.den * 10 ^ k.toNat))
  split
  · rename_i lower
    have half : 2 * (r.value * 10 ^ (-k).toNat % (r.den * 10 ^ k.toNat)) ≤
        r.den * 10 ^ k.toNat := by
      simp only [Bool.or_eq_true, Bool.and_eq_true, decide_eq_true_eq, beq_iff_eq] at lower
      omega
    dsimp only
    rw [if_pos (inside _ (by omega) (by omega))]
    rfl
  · rename_i upper
    have half : r.den * 10 ^ k.toNat ≤
        2 * (r.value * 10 ^ (-k).toNat % (r.den * 10 ^ k.toNat)) := by
      simp only [Bool.or_eq_true, Bool.and_eq_true, decide_eq_true_eq, beq_iff_eq, not_or,
        Nat.not_lt] at upper
      exact upper.1
    dsimp only
    rw [if_pos (inside _ (by omega) (by omega))]
    rfl

end Interval

theorem exponent_bounds {d : Double} (finite : d.isFinite = true) :
    -1074 ≤ d.exponent ∧ d.exponent ≤ 971 := by
  have limit := exponentField_le d
  have other : d.exponentField ≠ 0x7ff := by simpa [isFinite] using finite
  rw [Double.exponent]
  split <;> omega

/-- Half of a distance in quarters of the last bit: to the lower end of the rounding interval. -/
def gap (d : Double) : Nat := if d.fractionField = 0 && d.exponentField > 1 then 1 else 2

theorem gap_cases (d : Double) : d.gap = 2 ∨ d.gap = 1 ∧ d.significand = 2 ^ 52 := by
  unfold gap
  split
  · rename_i power
    simp only [Bool.and_eq_true, decide_eq_true_eq] at power
    have hidden : Nat.pow 2 52 = 2 ^ 52 := rfl
    refine .inr ⟨rfl, ?_⟩
    rw [significand, if_neg (by omega), power.1, hidden, Nat.add_zero]
  · exact .inl rfl

theorem roundingInterval_eq (d : Double) : d.roundingInterval =
    ⟨(4 * d.significand - d.gap) * 2 ^ (d.exponent - 2).toNat,
      4 * d.significand * 2 ^ (d.exponent - 2).toNat,
      (4 * d.significand + 2) * 2 ^ (d.exponent - 2).toNat, 2 ^ (-(d.exponent - 2)).toNat,
      d.significand % 2 == 0⟩ := rfl

/-- The power of ten below a double is not beyond its value. -/
theorem floorLogTen_value_le {d : Double} (finite : d.isFinite = true)
    (nonzero : d.isZero = false) :
    d.roundingInterval.den *
        10 ^ (floorLogTen d.roundingInterval.value d.roundingInterval.den).toNat ≤
      d.roundingInterval.value *
        10 ^ (-floorLogTen d.roundingInterval.value d.roundingInterval.den).toNat := by
  have some := significand_pos finite nonzero
  have fits := significand_lt d
  have limits := exponent_bounds finite
  have power : ∀ n, 0 < 2 ^ n := fun n => Nat.pow_pos (by decide)
  have positive : 0 < d.roundingInterval.value := Nat.mul_pos (by omega) (power _)
  refine floorLogTen_le positive ?_ ?_
  · have below : d.roundingInterval.value < 2 ^ (55 + (d.exponent - 2).toNat) := by
      rw [Nat.pow_add]
      exact Nat.mul_lt_mul_of_pos_right (by omega) (power _)
    have bound := (Nat.log2_lt (Nat.ne_of_gt positive)).mpr below
    omega
  · rw [roundingInterval_eq, Nat.log2_two_pow]
    omega

/-- A number with a digit before the point has more digits on a finer grid. -/
theorem refine_grid {num den : Nat} {top : Int}
    (lead : den * 10 ^ top.toNat ≤ num * 10 ^ (-top).toNat) (digits : Nat) :
    10 ^ digits * (den * 10 ^ (top - digits).toNat) ≤ num * 10 ^ (-(top - digits)).toNat := by
  have finer : 10 ^ top.toNat * 10 ^ (-(top - digits)).toNat =
      10 ^ digits * 10 ^ (top - digits).toNat * 10 ^ (-top).toNat := by
    rw [← Nat.pow_add, ← Nat.pow_add, ← Nat.pow_add]
    congr 1
    omega
  refine Nat.le_of_mul_le_mul_right (c := 10 ^ (-top).toNat) ?_ (Nat.pow_pos (by decide))
  calc 10 ^ digits * (den * 10 ^ (top - digits).toNat) * 10 ^ (-top).toNat
      = den * (10 ^ digits * 10 ^ (top - digits).toNat * 10 ^ (-top).toNat) := by ring
    _ = den * 10 ^ top.toNat * 10 ^ (-(top - digits)).toNat := by rw [← finer, Nat.mul_assoc]
    _ ≤ num * 10 ^ (-top).toNat * 10 ^ (-(top - digits)).toNat := Nat.mul_le_mul_right _ lead
    _ = num * 10 ^ (-(top - digits)).toNat * 10 ^ (-top).toNat := Nat.mul_right_comm ..

/-- Seventeen digits suffice: the finest grid that is tried has a point in the rounding interval. -/
theorem nearestOnGrid?_finest {d : Double} (finite : d.isFinite = true)
    (nonzero : d.isZero = false) :
    (d.roundingInterval.nearestOnGrid? (floorLogTen d.roundingInterval.value
      d.roundingInterval.den - (16 : Nat))).isSome = true := by
  have some := significand_pos finite nonzero
  have fits := significand_lt d
  have scaled := refine_grid (floorLogTen_value_le finite nonzero) 16
  generalize floorLogTen d.roundingInterval.value d.roundingInterval.den = top at scaled
  rw [roundingInterval_eq] at scaled ⊢
  have power : ∀ n, 0 < 2 ^ n := fun n => Nat.pow_pos (by decide)
  have last : 0 < 2 ^ (d.exponent - 2).toNat * 10 ^ (-(top - (16 : Nat))).toNat :=
    Nat.mul_pos (power _) (Nat.pow_pos (by decide))
  simp only [Nat.mul_assoc] at scaled
  generalize unit : 2 ^ (-(d.exponent - 2)).toNat * 10 ^ (top - (16 : Nat)).toNat = grid at scaled
  generalize bit : 2 ^ (d.exponent - 2).toNat * 10 ^ (-(top - (16 : Nat))).toNat = quarter
    at scaled last
  rw [← Nat.mul_assoc 4] at scaled
  have near : grid < 2 * (d.gap * quarter) ∧ grid < 4 * quarter := by
    rcases gap_cases d with two | ⟨one, least⟩
    · have most : 4 * d.significand * quarter ≤ 2 ^ 55 * quarter :=
        Nat.mul_le_mul_right _ (by omega)
      rw [two]
      omega
    · rw [least] at scaled
      rw [one]
      omega
  have room : d.gap ≤ 4 * d.significand := by
    rcases gap_cases d with two | ⟨one, -⟩ <;> omega
  apply nearestOnGrid?_isSome (power _)
  · simp only [Nat.mul_assoc, bit, unit]
    rw [Nat.sub_mul, ← Nat.mul_assoc 4]
    have whole : d.gap * quarter ≤ 4 * d.significand * quarter := Nat.mul_le_mul_right _ room
    omega
  · simp only [Nat.mul_assoc, bit, unit]
    rw [Nat.add_mul, ← Nat.mul_assoc 4]
    omega

/-- The shortest decimal of a double lies in its rounding interval. -/
theorem holds_shortestDecimal {d : Double} (finite : d.isFinite = true)
    (nonzero : d.isZero = false) : d.roundingInterval.Holds d.shortestDecimal := by
  have tried : 16 < 17 := by decide
  have found := holds_shortest tried (nearestOnGrid?_finest finite nonzero)
  exact (holds_dropZeros_iff 20 _ _).mpr found

/-- Two rounding intervals that share a quotient overlap: the lower end of the one with the greater
exponent is not beyond the upper end of the other, and before it if an end is left out. -/
theorem overlap {d e : Double} {num den : Nat} (unit : 0 < den)
    (inside : d.roundingInterval.contains num den = true)
    (inside' : e.roundingInterval.contains num den = true) (order : d.exponent ≤ e.exponent) :
    (4 * e.significand - e.gap) * 2 ^ (e.exponent - d.exponent).toNat ≤ 4 * d.significand + 2 ∧
      (d.significand % 2 = 1 ∨ e.significand % 2 = 1 →
        (4 * e.significand - e.gap) * 2 ^ (e.exponent - d.exponent).toNat <
          4 * d.significand + 2) := by
  obtain ⟨⟨-, upper⟩, strictly⟩ := contains_iff.mp inside
  obtain ⟨⟨lower, -⟩, strictly'⟩ := contains_iff.mp inside'
  rw [roundingInterval_eq] at upper strictly lower strictly'
  simp only at upper strictly lower strictly'
  have powers : 2 ^ (e.exponent - 2).toNat * 2 ^ (-(d.exponent - 2)).toNat =
      2 ^ (e.exponent - d.exponent).toNat *
        (2 ^ (d.exponent - 2).toNat * 2 ^ (-(e.exponent - 2)).toNat) := by
    rw [← Nat.pow_add, ← Nat.pow_add, ← Nat.pow_add]
    congr 1
    omega
  have common : 0 < den * (2 ^ (d.exponent - 2).toNat * 2 ^ (-(e.exponent - 2)).toNat) :=
    Nat.mul_pos unit (Nat.mul_pos (Nat.pow_pos (by decide)) (Nat.pow_pos (by decide)))
  have left : (4 * e.significand - e.gap) * 2 ^ (e.exponent - d.exponent).toNat *
      (den * (2 ^ (d.exponent - 2).toNat * 2 ^ (-(e.exponent - 2)).toNat)) =
      (4 * e.significand - e.gap) * 2 ^ (e.exponent - 2).toNat * den *
        2 ^ (-(d.exponent - 2)).toNat := by
    calc _ = (4 * e.significand - e.gap) * den * (2 ^ (e.exponent - d.exponent).toNat *
          (2 ^ (d.exponent - 2).toNat * 2 ^ (-(e.exponent - 2)).toNat)) := by ring
      _ = _ := by rw [← powers]; ring
  have right : (4 * d.significand + 2) *
      (den * (2 ^ (d.exponent - 2).toNat * 2 ^ (-(e.exponent - 2)).toNat)) =
      (4 * d.significand + 2) * 2 ^ (d.exponent - 2).toNat * den *
        2 ^ (-(e.exponent - 2)).toNat := by ring
  have middle : num * 2 ^ (-(e.exponent - 2)).toNat * 2 ^ (-(d.exponent - 2)).toNat =
      num * 2 ^ (-(d.exponent - 2)).toNat * 2 ^ (-(e.exponent - 2)).toNat :=
    Nat.mul_right_comm ..
  generalize den * (2 ^ (d.exponent - 2).toNat * 2 ^ (-(e.exponent - 2)).toNat) = shared
    at common left right
  have power : ∀ k : Int, 0 < 2 ^ k.toNat := fun k => Nat.pow_pos (by decide)
  have first := Nat.mul_le_mul_right (2 ^ (-(d.exponent - 2)).toNat) lower
  have second := Nat.mul_le_mul_right (2 ^ (-(e.exponent - 2)).toNat) upper
  constructor
  · refine Nat.le_of_mul_le_mul_right ?_ common
    rw [left, right]
    omega
  · intro odd
    refine Nat.lt_of_mul_lt_mul_right (a := shared) ?_
    rw [left, right]
    rcases odd with odd | odd
    · have strict := Nat.mul_lt_mul_of_pos_right (strictly (by simp [odd])).2
        (power (-(e.exponent - 2)))
      omega
    · have strict := Nat.mul_lt_mul_of_pos_right (strictly' (by simp [odd])).1
        (power (-(d.exponent - 2)))
      omega

/-- Beyond the least exponent a rounding interval begins at a leading bit, or just below it. -/
theorem low_ge {d : Double} (greater : -1074 < d.exponent) :
    2 ^ 54 - 1 ≤ 4 * d.significand - d.gap := by
  have hidden : Nat.pow 2 52 = 2 ^ 52 := rfl
  rw [Double.exponent] at greater
  rw [significand, gap, hidden]
  split at greater
  · omega
  · rw [if_neg (by assumption)]
    split
    · omega
    · rename_i others
      simp only [Bool.and_eq_true, decide_eq_true_eq] at others
      omega

/-- Of two doubles whose rounding intervals overlap none has the greater exponent. -/
theorem exponent_le {d e : Double} {num den : Nat} (unit : 0 < den)
    (inside : d.roundingInterval.contains num den = true)
    (inside' : e.roundingInterval.contains num den = true) : e.exponent ≤ d.exponent := by
  by_contra beyond
  obtain ⟨within, strictly⟩ := overlap unit inside inside' (by omega)
  have least : -1074 ≤ d.exponent := by
    rw [Double.exponent]
    split <;> omega
  have low := low_ge (show -1074 < e.exponent by omega)
  have fits := significand_lt d
  obtain ⟨k, further⟩ : ∃ k, (e.exponent - d.exponent).toNat = k + 1 :=
    ⟨(e.exponent - d.exponent).toNat - 1, by omega⟩
  have double : (4 * e.significand - e.gap) * 2 ≤
      (4 * e.significand - e.gap) * 2 ^ (e.exponent - d.exponent).toNat := by
    rw [further, Nat.pow_succ']
    exact Nat.mul_le_mul_left _ (Nat.le_mul_of_pos_right 2 (Nat.pow_pos (by decide)))
  -- The intervals touch only at the greatest significand, which is odd and leaves its end out.
  have odd : d.significand % 2 = 1 := by omega
  have apart := strictly (.inl odd)
  omega

theorem significand_le {d e : Double} {num den : Nat} (unit : 0 < den)
    (inside : d.roundingInterval.contains num den = true)
    (inside' : e.roundingInterval.contains num den = true) (same : d.exponent = e.exponent) :
    e.significand ≤ d.significand := by
  obtain ⟨within, strictly⟩ := overlap unit inside inside' (Int.le_of_eq same)
  have none : (e.exponent - d.exponent).toNat = 0 := by omega
  rw [none, Nat.pow_zero, Nat.mul_one] at within strictly
  rcases gap_cases e with two | ⟨one, -⟩ <;> omega

theorem isNegative_iff (d : Double) : d.isNegative = true ↔ 2 ^ 63 ≤ d.bits.toNat := by
  have fits := d.bits.toNat_lt
  have shifted : (d.bits >>> 63).toNat = d.bits.toNat / 2 ^ 63 := by
    rw [UInt64.toNat_shiftRight, Nat.shiftRight_eq_div_pow]
    rfl
  have zero : d.bits >>> 63 = 0 ↔ (d.bits >>> 63).toNat = 0 := UInt64.toNat_inj.symm
  rw [isNegative, bne_iff_ne, ne_eq, zero, shifted]
  omega

theorem fields_eq (d : Double) : d.exponentField = d.bits.toNat / 2 ^ 52 % 2 ^ 11 ∧
    d.fractionField = d.bits.toNat % 2 ^ 52 := by
  constructor
  · rw [exponentField, UInt64.toNat_and, UInt64.toNat_shiftRight, Nat.shiftRight_eq_div_pow]
    exact Nat.and_two_pow_sub_one_eq_mod _ 11
  · rw [fractionField, UInt64.toNat_and]
    exact Nat.and_two_pow_sub_one_eq_mod _ 52

theorem ext_parts {d e : Double} (sign : d.isNegative = e.isNegative)
    (significands : d.significand = e.significand) (exponents : d.exponent = e.exponent) :
    d = e := by
  have fraction := fractionField_lt d
  have fraction' := fractionField_lt e
  have hidden : Nat.pow 2 52 = 2 ^ 52 := rfl
  have fields : d.exponentField = e.exponentField ∧ d.fractionField = e.fractionField := by
    rw [significand, significand, hidden] at significands
    rw [Double.exponent, Double.exponent] at exponents
    by_cases least : d.exponentField = 0 <;> by_cases least' : e.exponentField = 0 <;>
      simp only [least, least', if_true, if_false] at significands exponents <;> constructor <;>
      omega
  rw [(fields_eq d).1, (fields_eq d).2, (fields_eq e).1, (fields_eq e).2] at fields
  rw [Bool.eq_iff_iff, isNegative_iff, isNegative_iff] at sign
  have high := d.bits.toNat_lt
  have high' := e.bits.toNat_lt
  have same : d.bits = e.bits := UInt64.toNat_inj.mp (by omega)
  cases d
  cases e
  exact congrArg Double.mk same

/-- Doubles of one sign whose rounding intervals share a quotient are the same. -/
theorem eq_of_overlap {d e : Double} {num den : Nat} (unit : 0 < den)
    (sign : d.isNegative = e.isNegative) (inside : d.roundingInterval.contains num den = true)
    (inside' : e.roundingInterval.contains num den = true) : d = e := by
  have exponents : d.exponent = e.exponent :=
    Int.le_antisymm (exponent_le unit inside' inside) (exponent_le unit inside inside')
  apply ext_parts sign _ exponents
  exact Nat.le_antisymm (significand_le unit inside' inside exponents.symm)
    (significand_le unit inside inside' exponents)

end Double
end ClusterConf
