import ClusterConf.Proofs.Roundings
set_option autoImplicit false

/-!
Rounding to doubles. Main statements: a quotient in the rounding interval of a double is rounded to
that double, and a decimal there is, too.
-/
namespace ClusterConf
namespace Double

/-- A quotient in the interval of what is rounded to a natural, ends left out if that is odd. -/
theorem roundDiv_eq {n d m : Nat} (unit : 0 < d) (low : 2 * m * d ≤ 2 * n + d)
    (high : 2 * n ≤ 2 * m * d + d)
    (strictly : m % 2 = 1 → 2 * m * d < 2 * n + d ∧ 2 * n < 2 * m * d + d) :
    roundDiv n d = m := by
  have parts := Nat.div_add_mod n d
  have rest := Nat.mod_lt n unit
  have below : n / d ≤ m := by
    by_contra above
    have more : d * (m + 1) ≤ d * (n / d) := Nat.mul_le_mul_left d (by omega)
    have next : 2 * m * d = 2 * (d * m) := by ring
    rw [Nat.mul_add_one] at more
    omega
  have above : m ≤ n / d + 1 := by
    by_contra beyond
    have more : d * (n / d + 2) ≤ d * m := Nat.mul_le_mul_left d (by omega)
    have next : 2 * m * d = 2 * (d * m) := by ring
    rw [Nat.mul_add] at more
    omega
  unfold roundDiv
  simp only
  rcases Nat.lt_or_eq_of_le below with less | same
  · -- The natural is the one above the quotient.
    obtain rfl : m = n / d + 1 := by omega
    have next : 2 * (n / d + 1) * d = 2 * (d * (n / d)) + 2 * d := by ring
    rw [next] at low strictly
    refine if_pos ?_
    simp only [Bool.or_eq_true, Bool.and_eq_true, decide_eq_true_eq, beq_iff_eq]
    omega
  · have next : 2 * m * d = 2 * (d * (n / d)) := by rw [← same]; ring
    rw [next] at high strictly
    refine (if_neg ?_).trans same
    simp only [Bool.or_eq_true, Bool.and_eq_true, decide_eq_true_eq, beq_iff_eq]
    omega

section Scaling

variable {num den : Nat} {e f : Int}

/-- A quotient in units of a power of two, compared on a finer scale. -/
theorem scale_iff (num : Nat) (unit : 0 < den) (order : e ≤ f) (a b : Nat) :
    a * (den * 2 ^ f.toNat) ≤ num * 2 ^ (-f).toNat * b ↔
      a * 2 ^ (f - e).toNat * (den * 2 ^ e.toNat) ≤ num * 2 ^ (-e).toNat * b := by
  have power : ∀ k : Int, 0 < 2 ^ k.toNat := fun k => Nat.pow_pos (by decide)
  have powers : 2 ^ (-e).toNat * 2 ^ f.toNat =
      2 ^ (f - e).toNat * (2 ^ (-f).toNat * 2 ^ e.toNat) := by
    rw [← Nat.pow_add, ← Nat.pow_add, ← Nat.pow_add]
    congr 1
    omega
  have same : 2 ^ (f - e).toNat * (num * 2 ^ (-f).toNat) * (den * 2 ^ e.toNat) =
      num * 2 ^ (-e).toNat * (den * 2 ^ f.toNat) := by
    calc _ = num * den * (2 ^ (f - e).toNat * (2 ^ (-f).toNat * 2 ^ e.toNat)) := by ring
      _ = _ := by rw [← powers]; ring
  have cross := (cross_le_iff (Nat.mul_pos unit (power f)) (Nat.mul_pos unit (power e)) same
    (a * 2 ^ (f - e).toNat) b).1
  rw [← cross, ← Nat.mul_le_mul_left_iff (power (f - e))]
  have left : 2 ^ (f - e).toNat * (a * (den * 2 ^ f.toNat)) =
      a * 2 ^ (f - e).toNat * (den * 2 ^ f.toNat) := by ring
  have right : 2 ^ (f - e).toNat * (num * 2 ^ (-f).toNat * b) =
      2 ^ (f - e).toNat * (num * 2 ^ (-f).toNat) * b := by ring
  rw [left, right]

/-- The exponent at which a quotient has 53 bits before the point. -/
def fittedExponent (num den : Nat) : Int :=
  let guess : Int := (num.log2 : Int) - (den.log2 : Int) - 52
  if num * Nat.pow 2 (-guess).toNat < Nat.pow 2 52 * (den * Nat.pow 2 (- -guess).toNat)
    then guess - 1 else guess

/-- A quotient has 53 bits before the point at an exponent. -/
def Fitted (num den : Nat) (e : Int) : Prop :=
  2 ^ 52 * (den * 2 ^ e.toNat) ≤ num * 2 ^ (-e).toNat ∧
    num * 2 ^ (-e).toNat < 2 ^ 53 * (den * 2 ^ e.toNat)

/-- The logarithms leave a quotient 52 or 53 bits before the point. -/
theorem guess_bounds (some : 0 < num) (unit : 0 < den)
    (guessed : e = (num.log2 : Int) - (den.log2 : Int) - 52) :
    2 ^ 51 * (den * 2 ^ e.toNat) < num * 2 ^ (-e).toNat ∧
      num * 2 ^ (-e).toNat < 2 ^ 53 * (den * 2 ^ e.toNat) := by
  have power : ∀ k : Int, 0 < 2 ^ k.toNat := fun k => Nat.pow_pos (by decide)
  have balance : num.log2 + (-e).toNat = den.log2 + 52 + e.toNat := by omega
  constructor
  · calc 2 ^ 51 * (den * 2 ^ e.toNat)
        < 2 ^ 51 * (2 ^ (den.log2 + 1) * 2 ^ e.toNat) := by
          refine Nat.mul_lt_mul_of_pos_left ?_ (by decide)
          exact Nat.mul_lt_mul_of_pos_right Nat.lt_log2_self (power e)
      _ = 2 ^ (den.log2 + 52 + e.toNat) := by
          rw [← Nat.pow_add, ← Nat.pow_add]
          congr 1
          omega
      _ = 2 ^ num.log2 * 2 ^ (-e).toNat := by rw [← balance, Nat.pow_add]
      _ ≤ num * 2 ^ (-e).toNat :=
          Nat.mul_le_mul_right _ (Nat.log2_self_le (Nat.ne_of_gt some))
  · calc num * 2 ^ (-e).toNat
        < 2 ^ (num.log2 + 1) * 2 ^ (-e).toNat :=
          Nat.mul_lt_mul_of_pos_right Nat.lt_log2_self (power (-e))
      _ = 2 ^ (den.log2 + 53 + e.toNat) := by
          rw [← Nat.pow_add]
          congr 1
          omega
      _ = 2 ^ 53 * (2 ^ den.log2 * 2 ^ e.toNat) := by
          rw [← Nat.pow_add, ← Nat.pow_add]
          congr 1
          omega
      _ ≤ 2 ^ 53 * (den * 2 ^ e.toNat) := by
          refine Nat.mul_le_mul_left _ (Nat.mul_le_mul_right _ ?_)
          exact Nat.log2_self_le (Nat.ne_of_gt unit)

theorem fitted_fittedExponent (some : 0 < num) (unit : 0 < den) :
    Fitted num den (fittedExponent num den) := by
  unfold fittedExponent
  simp only
  generalize guessed : (num.log2 : Int) - (den.log2 : Int) - 52 = guess
  obtain ⟨low, high⟩ := guess_bounds some unit guessed.symm
  have power : ∀ n, Nat.pow 2 n = 2 ^ n := fun _ => rfl
  simp only [power, Int.neg_neg]
  split
  · rename_i less
    have one : (guess - (guess - 1)).toNat = 1 := by omega
    have lower := (scale_iff num unit (by omega : guess - 1 ≤ guess) (2 ^ 51) 1).mp
      (by omega)
    have upper := (not_congr (scale_iff num unit (by omega : guess - 1 ≤ guess)
      (2 ^ 52) 1)).mp (by omega)
    rw [one] at lower upper
    exact ⟨by omega, by omega⟩
  · exact ⟨by omega, high⟩

theorem Fitted.eq (unit : 0 < den) (fits : Fitted num den e) (fits' : Fitted num den f) :
    e = f := by
  have apart : ∀ {e f : Int}, Fitted num den e → Fitted num den f → ¬ e < f := by
    intro e f fits fits' less
    have lower := (scale_iff num unit (Int.le_of_lt less) (2 ^ 52) 1).mp
      (by rw [Nat.mul_one]; exact fits'.1)
    have double : 2 ^ 53 * (den * 2 ^ e.toNat) ≤
        2 ^ 52 * 2 ^ (f - e).toNat * (den * 2 ^ e.toNat) := by
      refine Nat.mul_le_mul_right _ ?_
      rw [← Nat.pow_add]
      exact Nat.pow_le_pow_right (by decide) (by omega)
    have upper := fits.2
    omega
  have first := apart fits fits'
  have second := apart fits' fits
  omega

/-- A quotient with fewer bits at an exponent has 53 bits at a lesser one. -/
theorem Fitted.lt (unit : 0 < den) (fits : Fitted num den f)
    (small : num * 2 ^ (-e).toNat < 2 ^ 52 * (den * 2 ^ e.toNat)) : f < e := by
  by_contra beyond
  have lower := (scale_iff num unit (Int.not_lt.mp beyond) (2 ^ 52) 1).mp
    (by rw [Nat.mul_one]; exact fits.1)
  have more : 2 ^ 52 * (den * 2 ^ e.toNat) ≤
      2 ^ 52 * 2 ^ (f - e).toNat * (den * 2 ^ e.toNat) :=
    Nat.mul_le_mul_right _ (Nat.le_mul_of_pos_right _ (Nat.pow_pos (by decide)))
  omega

end Scaling

variable {d : Double} {num den : Nat}

/-- A quotient in the rounding interval of a double, in quarters of the last bit. -/
theorem quarters_of_contains (unit : 0 < den)
    (inside : d.roundingInterval.contains num den = true) :
    let n := num * 2 ^ (-d.exponent).toNat
    let p := den * 2 ^ d.exponent.toNat
    (4 * d.significand - d.gap) * p ≤ n * 4 ∧ n * 4 ≤ (4 * d.significand + 2) * p ∧
      (d.significand % 2 = 1 →
        (4 * d.significand - d.gap) * p < n * 4 ∧ n * 4 < (4 * d.significand + 2) * p) := by
  intro n p
  obtain ⟨⟨lower, upper⟩, strictly⟩ := contains_iff.mp inside
  rw [roundingInterval_eq] at lower upper strictly
  simp only at lower upper strictly
  have power : ∀ k : Int, 0 < 2 ^ k.toNat := fun k => Nat.pow_pos (by decide)
  have powers : 2 ^ (-(d.exponent - 2)).toNat * 2 ^ d.exponent.toNat =
      4 * (2 ^ (-d.exponent).toNat * 2 ^ (d.exponent - 2).toNat) := by
    have four : 4 = 2 ^ 2 := rfl
    rw [four, ← Nat.pow_add, ← Nat.pow_add, ← Nat.pow_add]
    congr 1
    omega
  have same : num * 2 ^ (-(d.exponent - 2)).toNat * p =
      n * 4 * (2 ^ (d.exponent - 2).toNat * den) := by
    calc num * 2 ^ (-(d.exponent - 2)).toNat * p
        = num * den * (2 ^ (-(d.exponent - 2)).toNat * 2 ^ d.exponent.toNat) := by ring
      _ = n * 4 * (2 ^ (d.exponent - 2).toNat * den) := by rw [powers]; ring
  have cross : ∀ a, (a * 2 ^ (d.exponent - 2).toNat * den ≤ num * 2 ^ (-(d.exponent - 2)).toNat ↔
      a * p ≤ n * 4) ∧ (num * 2 ^ (-(d.exponent - 2)).toNat ≤ a * 2 ^ (d.exponent - 2).toNat * den ↔
        n * 4 ≤ a * p) := by
    intro a
    have both := cross_le_iff (Nat.mul_pos (power (d.exponent - 2)) unit)
      (Nat.mul_pos unit (power d.exponent)) same a 1
    simpa only [Nat.mul_one, Nat.mul_assoc] using both
  refine ⟨(cross _).1.mp lower, (cross _).2.mp upper, fun odd => ?_⟩
  obtain ⟨above, below⟩ := strictly (by simp [odd])
  exact ⟨Nat.lt_of_not_le fun le => absurd ((cross _).2.mpr le) (Nat.not_le.mpr above),
    Nat.lt_of_not_le fun le => absurd ((cross _).1.mpr le) (Nat.not_le.mpr below)⟩

/-- A quotient in the rounding interval of a double gives its significand at its exponent. -/
theorem roundDiv_of_contains (some : 0 < d.significand) (unit : 0 < den)
    (inside : d.roundingInterval.contains num den = true) :
    roundDiv (num * 2 ^ (-d.exponent).toNat) (den * 2 ^ d.exponent.toNat) = d.significand := by
  obtain ⟨lower, upper, strictly⟩ := quarters_of_contains unit inside
  have positive : 0 < den * 2 ^ d.exponent.toNat := Nat.mul_pos unit (Nat.pow_pos (by decide))
  have gaps : d.gap ≤ 2 ∧ d.gap ≤ 4 * d.significand := by
    rcases gap_cases d with two | ⟨one, -⟩ <;> omega
  generalize num * 2 ^ (-d.exponent).toNat = n at lower upper strictly ⊢
  generalize den * 2 ^ d.exponent.toNat = p at lower upper strictly positive ⊢
  have quarters : 4 * d.significand * p ≤ (4 * d.significand - d.gap) * p + 2 * p := by
    rw [← Nat.add_mul]
    exact Nat.mul_le_mul_right p (by omega)
  have four : 4 * d.significand * p = 2 * (2 * d.significand * p) := by ring
  rw [Nat.add_mul] at upper strictly
  refine roundDiv_eq positive (by omega) (by omega) fun odd => ?_
  obtain ⟨above, below⟩ := strictly odd
  exact ⟨by omega, by omega⟩

/-- A quotient in the rounding interval of a double that has one bit less there lies just below the
power of two, and is rounded up to that with its exponent. -/
theorem rounded_below (unit : 0 < den) (inside : d.roundingInterval.contains num den = true)
    (small : num * 2 ^ (-d.exponent).toNat < 2 ^ 52 * (den * 2 ^ d.exponent.toNat))
    (normal : -1074 < d.exponent) :
    Fitted num den (d.exponent - 1) ∧ d.significand = 2 ^ 52 ∧
      roundDiv (num * 2 ^ (-(d.exponent - 1)).toNat) (den * 2 ^ (d.exponent - 1).toNat) =
        2 ^ 53 := by
  obtain ⟨lower, -, -⟩ := quarters_of_contains unit inside
  have parts : 0 < den * 2 ^ d.exponent.toNat := Nat.mul_pos unit (Nat.pow_pos (by decide))
  have low := low_ge (d := d) (by omega)
  have next : (2 ^ 54 - 1) * (den * 2 ^ d.exponent.toNat) ≤ num * 2 ^ (-d.exponent).toNat * 4 :=
    Nat.le_trans (Nat.mul_le_mul_right _ low) lower
  have bound : 4 * d.significand - d.gap < 2 ^ 54 := by
    refine Nat.lt_of_mul_lt_mul_right (a := den * 2 ^ d.exponent.toNat) ?_
    omega
  have power : d.significand = 2 ^ 52 := by
    rcases gap_cases d with two | ⟨-, power⟩
    · omega
    · exact power
  have one : (d.exponent - (d.exponent - 1)).toNat = 1 := by omega
  have down : d.exponent - 1 ≤ d.exponent := by omega
  have begins := (scale_iff num unit down (2 ^ 54 - 1) 4).mp next
  have ends := (not_congr (scale_iff num unit down (2 ^ 52) 1)).mp (by omega)
  rw [one] at begins ends
  have positive : 0 < den * 2 ^ (d.exponent - 1).toNat :=
    Nat.mul_pos unit (Nat.pow_pos (by decide))
  exact ⟨⟨by omega, by omega⟩, power, roundDiv_eq positive (by omega) (by omega) (by omega)⟩

/-- The exponent at which a quotient is rounded, and what comes of it: the significand of a double
in whose rounding interval it lies, unless it lies below a power of two and has one bit more. -/
theorem rounded_cases (some : 0 < d.significand) (least : -1074 ≤ d.exponent) (positive : 0 < num)
    (unit : 0 < den) (inside : d.roundingInterval.contains num den = true) :
    let e := max (fittedExponent num den) (-1074)
    let q := roundDiv (num * 2 ^ (-e).toNat) (den * 2 ^ e.toNat)
    e = d.exponent ∧ q = d.significand ∨
      e = d.exponent - 1 ∧ q = 2 ^ 53 ∧ d.significand = 2 ^ 52 ∧ -1074 < d.exponent := by
  intro e q
  have fitted := fitted_fittedExponent positive unit
  have here : e = d.exponent → e = d.exponent ∧ q = d.significand := fun same =>
    ⟨same, by rw [← roundDiv_of_contains some unit inside, ← same]⟩
  rcases Nat.lt_or_ge (num * 2 ^ (-d.exponent).toNat) (2 ^ 52 * (den * 2 ^ d.exponent.toNat))
    with small | large
  · have less := fitted.lt unit small
    rcases Int.lt_or_eq_of_le least with normal | least'
    · obtain ⟨fits, power, rounded⟩ := rounded_below unit inside small normal
      have there := fitted.eq unit fits
      have same : e = d.exponent - 1 := by omega
      exact .inr ⟨same, by rw [← rounded, ← same], power, normal⟩
    · exact .inl (here (by omega))
  · have parts : 0 < den * 2 ^ d.exponent.toNat := Nat.mul_pos unit (Nat.pow_pos (by decide))
    have fits := significand_lt d
    have whole : (4 * d.significand + 2) * (den * 2 ^ d.exponent.toNat) <
        2 ^ 55 * (den * 2 ^ d.exponent.toNat) := Nat.mul_lt_mul_of_pos_right (by omega) parts
    obtain ⟨-, upper, -⟩ := quarters_of_contains unit inside
    have there := fitted.eq unit (f := d.exponent) ⟨large, by omega⟩
    exact .inl (here (by omega))

theorem ofParts_fields (d : Double) :
    ofParts d.isNegative (d.exponentField * 2 ^ 52 + d.fractionField) = d := by
  obtain ⟨exponent, fraction⟩ := fields_eq d
  have sign := isNegative_iff d
  have fits := d.bits.toNat_lt
  have power : Nat.pow 2 63 = 2 ^ 63 := rfl
  have word : d.exponentField * 2 ^ 52 + d.fractionField +
      (if d.isNegative then Nat.pow 2 63 else 0) = d.bits.toNat := by
    rw [power]
    generalize d.bits.toNat = bits at exponent fraction sign fits ⊢
    split
    · rename_i negative
      have high := sign.mp negative
      omega
    · rename_i positive
      have low := mt sign.mpr positive
      omega
  rw [ofParts, word, UInt64.ofNat_toNat]

theorem ofRatio_eq (finite : d.isFinite = true) (nonzero : d.isZero = false) (unit : 0 < den)
    (inside : d.roundingInterval.contains num den = true) :
    ofRatio d.isNegative num den = d := by
  have positive := contains_pos (low_pos finite nonzero) unit inside
  have rounded := rounded_cases (significand_pos finite nonzero) (exponent_bounds finite).1
    positive unit inside
  have limit := exponentField_le d
  have other : d.exponentField ≠ 0x7ff := by simpa [isFinite] using finite
  have fraction := fractionField_lt d
  have power : ∀ n, Nat.pow 2 n = 2 ^ n := fun _ => rfl
  have fitted : (if num * Nat.pow 2 (-((num.log2 : Int) - den.log2 - 52)).toNat <
      Nat.pow 2 52 * (den * Nat.pow 2 (- -((num.log2 : Int) - den.log2 - 52)).toNat)
      then (num.log2 : Int) - den.log2 - 52 - 1 else (num.log2 : Int) - den.log2 - 52) =
        fittedExponent num den := rfl
  unfold ofRatio scaled
  simp only at rounded ⊢
  rw [if_neg (by simp; omega), fitted]
  generalize max (fittedExponent num den) (-1074) = e at rounded
  simp only [power, Int.neg_neg]
  generalize roundDiv (num * 2 ^ (-e).toNat) (den * 2 ^ e.toNat) = q at rounded
  have magnitude : (if q < 2 ^ 52 then q else (e + 1074).toNat * 2 ^ 52 + q) =
      d.exponentField * 2 ^ 52 + d.fractionField := by
    rw [significand, Double.exponent, power] at rounded
    by_cases subnormal : d.exponentField = 0
    · rw [if_pos subnormal, if_pos subnormal] at rounded
      split <;> omega
    · rw [if_neg subnormal, if_neg subnormal] at rounded
      split <;> omega
  rw [magnitude, if_neg (by omega)]
  exact ofParts_fields d

/-- A quotient in the rounding interval of a double is neither too small nor too great. -/
theorem bounds_of_contains (some : 0 < d.significand) (finite : d.isFinite = true)
    (unit : 0 < den) (inside : d.roundingInterval.contains num den = true) {n : Nat}
    (large : 1100 ≤ n) : den ≤ num * 2 ^ n ∧ num ≤ den * 2 ^ n := by
  obtain ⟨lower, upper, -⟩ := quarters_of_contains unit inside
  obtain ⟨least, most⟩ := exponent_bounds finite
  have fits := significand_lt d
  have gaps : d.gap < 4 * d.significand := by
    rcases gap_cases d with two | ⟨one, -⟩ <;> omega
  have power : ∀ {k : Int} {n : Nat}, k.toNat ≤ n → 2 ^ k.toNat ≤ 2 ^ n := fun le =>
    Nat.pow_le_pow_right (by decide) le
  have whole : ∀ k : Int, 1 ≤ 2 ^ k.toNat := fun k => Nat.pow_pos (by decide)
  constructor
  · calc den ≤ den * 2 ^ d.exponent.toNat := Nat.le_mul_of_pos_right _ (whole _)
      _ ≤ (4 * d.significand - d.gap) * (den * 2 ^ d.exponent.toNat) :=
          Nat.le_mul_of_pos_left _ (by omega)
      _ ≤ num * 2 ^ (-d.exponent).toNat * 4 := lower
      _ ≤ num * 2 ^ (n - 2) * 2 ^ 2 :=
          Nat.mul_le_mul_right 4 (Nat.mul_le_mul_left _ (power (by omega)))
      _ = num * 2 ^ n := by rw [Nat.mul_assoc, ← Nat.pow_add, Nat.sub_add_cancel (by omega)]
  · calc num ≤ num * 2 ^ (-d.exponent).toNat := Nat.le_mul_of_pos_right _ (whole _)
      _ ≤ num * 2 ^ (-d.exponent).toNat * 4 := Nat.le_mul_of_pos_right _ (by decide)
      _ ≤ (4 * d.significand + 2) * (den * 2 ^ d.exponent.toNat) := upper
      _ ≤ 2 ^ 55 * (den * 2 ^ (n - 55)) :=
          Nat.mul_le_mul (by omega) (Nat.mul_le_mul_left _ (power (by omega)))
      _ = den * 2 ^ n := by rw [Nat.mul_left_comm, ← Nat.pow_add, Nat.add_sub_cancel' (by omega)]

theorem digitCount_pow {c : Nat} (some : c ≠ 0) :
    0 < digitCount c ∧ 10 ^ (digitCount c - 1) ≤ c ∧ c < 10 ^ digitCount c := by
  have digits : 0 < (Nat.toDigits 10 c).length := List.length_pos_iff.mpr Nat.toDigits_ne_nil
  have count : digitCount c = (Nat.toDigits 10 c).length := if_neg some
  rw [count]
  refine ⟨digits, ?_, (Nat.length_toDigits_le_iff (by decide) digits).mp (Nat.le_refl _)⟩
  by_cases one : (Nat.toDigits 10 c).length = 1
  · rw [one]
    exact Nat.pos_of_ne_zero some
  · refine Nat.not_lt.mp fun less => ?_
    have shorter := (Nat.length_toDigits_le_iff (by decide) (by omega)).mpr less
    omega

/-- A decimal in the rounding interval of a double begins not too far from the point. -/
theorem digitCount_bounds (finite : d.isFinite = true) (nonzero : d.isZero = false) {c : Nat}
    {k : Int} (some : c ≠ 0) (inside : d.roundingInterval.Holds (c, k)) {n : Nat}
    (large : 367 ≤ n) : -(n : Int) ≤ k + digitCount c ∧ k + digitCount c ≤ n := by
  have unit : 0 < 10 ^ (-k).toNat := Nat.pow_pos (by decide)
  obtain ⟨small, great⟩ := bounds_of_contains (n := 3 * n) (significand_pos finite nonzero)
    finite unit inside (by omega)
  obtain ⟨digits, above, below⟩ := digitCount_pow some
  have powers : 2 ^ (3 * n) < 10 ^ n := by
    rw [Nat.pow_mul]
    exact Nat.pow_lt_pow_left (by decide) (by omega)
  generalize digitCount c = count at digits below above ⊢
  constructor
  · by_contra beyond
    have short : 10 ^ (-k).toNat < 10 ^ (count + k.toNat + n) := by
      calc 10 ^ (-k).toNat ≤ c * 10 ^ k.toNat * 2 ^ (3 * n) := small
        _ < 10 ^ count * 10 ^ k.toNat * 2 ^ (3 * n) :=
            Nat.mul_lt_mul_of_pos_right (Nat.mul_lt_mul_of_pos_right below
              (Nat.pow_pos (by decide))) (Nat.pow_pos (by decide))
        _ ≤ 10 ^ count * 10 ^ k.toNat * 10 ^ n :=
            Nat.mul_le_mul_left _ (Nat.le_of_lt powers)
        _ = 10 ^ (count + k.toNat + n) := by rw [← Nat.pow_add, ← Nat.pow_add]
    have order := (Nat.pow_lt_pow_iff_right (by decide)).mp short
    omega
  · by_contra beyond
    have long : 10 ^ (count - 1 + k.toNat) < 10 ^ ((-k).toNat + n) := by
      calc 10 ^ (count - 1 + k.toNat) = 10 ^ (count - 1) * 10 ^ k.toNat := Nat.pow_add ..
        _ ≤ c * 10 ^ k.toNat := Nat.mul_le_mul_right _ above
        _ ≤ 10 ^ (-k).toNat * 2 ^ (3 * n) := great
        _ < 10 ^ (-k).toNat * 10 ^ n := Nat.mul_lt_mul_of_pos_left powers unit
        _ = 10 ^ ((-k).toNat + n) := (Nat.pow_add ..).symm
    have order := (Nat.pow_lt_pow_iff_right (by decide)).mp long
    omega

/-- A decimal in the rounding interval of a double is rounded to that double. -/
theorem ofDecimal_eq (finite : d.isFinite = true) (nonzero : d.isZero = false) {c : Nat} {k : Int}
    (inside : d.roundingInterval.Holds (c, k)) : ofDecimal d.isNegative c k = d := by
  have unit : 0 < 10 ^ (-k).toNat := Nat.pow_pos (by decide)
  have positive := contains_pos (low_pos finite nonzero) unit inside
  have some : c ≠ 0 := by
    rintro rfl
    simp at positive
  obtain ⟨low, high⟩ := digitCount_bounds (n := 400) finite nonzero some inside (by decide)
  unfold ofDecimal
  simp only
  rw [if_neg (by simp [some]; omega), if_neg (by omega)]
  exact ofRatio_eq finite nonzero unit inside

end Double
end ClusterConf
