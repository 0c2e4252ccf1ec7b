import ClusterConf.Time
import Mathlib.Order.Basic
set_option autoImplicit false

/-!
Days and dates. Main statements: a date made of a number of days is a day of the calendar, and the
days up to it are that number. The calendar repeats itself after an era of 400 years, which start in
March, so that a leap day is the last day of its year.
-/
namespace ClusterConf.Timestamp

/-- The days of an era before one of its years, which start in March. -/
def daysBefore (y : Int) : Int := 365 * y + y / 4 - y / 100

/-- The days of an era up to one of them that are no leap days. -/
def ordinaryDays (d : Int) : Int := d - d / 1460 + d / 36524 - d / 146096

theorem ordinaryDays_mono {c d : Int} (low : 0 ≤ c) (le : c ≤ d) (high : d ≤ 146096) :
    ordinaryDays c ≤ ordinaryDays d := by
  obtain ⟨n, rfl⟩ := Int.le.dest le
  induction n with
  | zero => simp
  | succ n ih =>
    have step : ordinaryDays (c + n) ≤ ordinaryDays (c + n + 1) := by
      unfold ordinaryDays
      omega
    have before := ih (by omega) (by omega)
    have next : c + ((n + 1 : Nat) : Int) = c + n + 1 := by omega
    rw [next]
    omega

/-- Every day of an era is in one of its years; the last one is longer by a day than it seems. -/
theorem exists_year {d : Int} (low : 0 ≤ d) (high : d ≤ 146096) :
    ∃ y : Fin 400, daysBefore y.val ≤ d ∧
      d < daysBefore (y.val + 1) + if y.val = 399 then 1 else 0 := by
  have search : ∀ n : Nat, d < daysBefore n →
      ∃ y : Nat, y < n ∧ daysBefore y ≤ d ∧ d < daysBefore (y + 1) := by
    intro n
    induction n with
    | zero =>
      intro none
      have start : daysBefore (0 : Nat) = 0 := rfl
      omega
    | succ n ih =>
      intro before
      by_cases earlier : d < daysBefore n
      · obtain ⟨y, less, found⟩ := ih earlier
        exact ⟨y, by omega, found⟩
      · exact ⟨n, by omega, by omega, by simpa using before⟩
  by_cases last : d = 146096
  · subst last
    exact ⟨399, by decide, by decide⟩
  · have stop : daysBefore (400 : Nat) = 146096 := rfl
    obtain ⟨y, less, start, before⟩ := search 400 (by omega)
    exact ⟨⟨y, less⟩, start, by dsimp only; split <;> omega⟩

theorem year_limits : ∀ y : Fin 400,
    let next := daysBefore (y.val + 1) + if y.val = 399 then 1 else 0
    365 * (y.val : Int) ≤ ordinaryDays (daysBefore y.val) ∧
      ordinaryDays (next - 1) < 365 * (y.val + 1) ∧ 0 ≤ daysBefore y.val ∧ next ≤ 146097 ∧
      next - daysBefore y.val ≤ if isLeapYear (y.val + 1) then 366 else 365 := by
  decide +kernel

/-- The year of a day, counted without the leap days before it. -/
theorem yearOfEra {d : Int} (low : 0 ≤ d) (high : d ≤ 146096) :
    ∃ y : Fin 400, ordinaryDays d / 365 = y.val ∧ daysBefore y.val ≤ d ∧
      d - daysBefore y.val < if isLeapYear (y.val + 1) then 366 else 365 := by
  obtain ⟨y, start, stop⟩ := exists_year low high
  obtain ⟨least, greatest, first, last, length⟩ := year_limits y
  have below := ordinaryDays_mono first start high
  have above := ordinaryDays_mono low (Int.le_sub_one_of_lt stop) (by omega)
  exact ⟨y, by omega, start, by omega⟩

/-- The months from March on have the days that they should; the year may have a leap day. -/
theorem month_limits : ∀ n : Fin 366,
    let fromMarch : Int := (5 * n.val + 2) / 153
    let month : Int := if fromMarch < 10 then fromMarch + 3 else fromMarch - 9
    let day : Int := n.val - (153 * fromMarch + 2) / 5 + 1
    (1 ≤ month ∧ month ≤ 12 ∧ (month.toNat + 9) % 12 = fromMarch) ∧ 1 ≤ day ∧
      day ≤ daysInMonth (if n.val = 365 then 4 else 1) month.toNat := by
  decide +kernel

theorem daysInMonth_le {y z : Int} {m : Nat}
    (leap : m = 2 → isLeapYear y = true → isLeapYear z = true) :
    daysInMonth y m ≤ daysInMonth z m := by
  unfold daysInMonth
  split
  · by_cases first : isLeapYear y = true
    · exact Nat.le_of_eq (by rw [if_pos first, if_pos (leap rfl first)])
    · rw [if_neg first]
      split <;> omega
  all_goals exact Nat.le_refl _

theorem isLeapYear_era (y era : Int) : isLeapYear (y + era * 400) = isLeapYear y := by
  have fourth : (y + era * 400).emod 4 = y.emod 4 := by
    change (y + era * 400) % 4 = y % 4
    omega
  have hundredth : (y + era * 400).emod 100 = y.emod 100 := by
    change (y + era * 400) % 100 = y % 100
    omega
  have whole : (y + era * 400).emod 400 = y.emod 400 := by
    change (y + era * 400) % 400 = y % 400
    omega
  rw [isLeapYear, isLeapYear, fourth, hundredth, whole]

/-- The date of a day: `n` days into the year `y` of an era. -/
def dateOf (era y n : Int) : Date :=
  let fromMarch := (5 * n + 2) / 153
  let month := if fromMarch < 10 then fromMarch + 3 else fromMarch - 9
  let day := n - (153 * fromMarch + 2) / 5 + 1
  ⟨y + era * 400 + if month ≤ 2 then 1 else 0, month.toNat, day.toNat⟩

/-- The date some days after the start of 1970 is a day of some year of some era. -/
theorem ofDays_cases (days : Int) : ∃ (era : Int) (y : Fin 400) (n : Fin 366),
    days + 719468 = era * 146097 + (daysBefore y.val + n.val) ∧
      (n.val = 365 → isLeapYear (y.val + 1) = true) ∧
      Date.ofDays days = dateOf era y.val n.val := by
  let era := (days + 719468).fdiv 146097
  let d := days + 719468 - era * 146097
  have rounded : era = (days + 719468) / 146097 :=
    Int.fdiv_eq_ediv_of_nonneg _ (by decide)
  have low : 0 ≤ d := by omega
  have high : d ≤ 146096 := by omega
  obtain ⟨y, year, start, length⟩ := yearOfEra low high
  have inside : d - daysBefore y.val < 366 := by split at length <;> omega
  refine ⟨era, y, ⟨(d - daysBefore y.val).toNat, by omega⟩, ?_, ?_, ?_⟩
  · dsimp only
    omega
  · intro last
    by_contra ordinary
    rw [if_neg ordinary] at length
    dsimp only at last
    omega
  · have computed : Date.ofDays days =
        dateOf era (ordinaryDays d / 365) (d - daysBefore (ordinaryDays d / 365)) := rfl
    rw [computed, year]
    congr 1
    dsimp only
    omega

theorem toDays_ofDays (days : Int) : (Date.ofDays days).toDays = days := by
  obtain ⟨era, y, n, split, -, date⟩ := ofDays_cases days
  obtain ⟨⟨first, last, march⟩, positive, -⟩ := month_limits n
  rw [date]
  generalize month : (if (5 * (n.val : Int) + 2) / 153 < 10 then (5 * (n.val : Int) + 2) / 153 + 3
    else (5 * (n.val : Int) + 2) / 153 - 9) = m at first last march
  have years : (if m.toNat ≤ 2 then (y.val + era * 400 + if m ≤ 2 then 1 else 0) - 1
      else y.val + era * 400 + if m ≤ 2 then 1 else 0) = y.val + era * 400 := by
    split <;> split <;> omega
  have rounded : (y.val + era * 400 : Int).fdiv 400 = era := by
    rw [Int.fdiv_eq_ediv_of_nonneg _ (by decide)]
    omega
  simp only [dateOf, Date.toDays, month, years, rounded, march, Int.add_sub_cancel,
    Int.toNat_of_nonneg (Int.le_trans (by decide) positive)]
  unfold daysBefore at split
  omega

theorem isValid_ofDays {days : Int} (known : isKnownYear (Date.ofDays days).year = true) :
    (Date.ofDays days).isValid = true := by
  obtain ⟨era, y, n, -, leap, date⟩ := ofDays_cases days
  obtain ⟨⟨first, last, -⟩, positive, fits⟩ := month_limits n
  have days : (dateOf era y.val n.val).day ≤
      daysInMonth (dateOf era y.val n.val).year (dateOf era y.val n.val).month := by
    refine Nat.le_trans (Int.toNat_le.mpr fits) (daysInMonth_le fun february special => ?_)
    have final : n.val = 365 := by
      by_contra other
      rw [if_neg other] at special
      cases special
    have year : (dateOf era y.val n.val).year = (y.val + 1) + era * 400 := by
      simp only [dateOf]
      rw [if_pos (by omega)]
      omega
    rw [year, isLeapYear_era]
    exact leap final
  rw [date] at known ⊢
  simp only [Date.isValid, known, Bool.and_eq_true, decide_eq_true_eq, true_and]
  refine ⟨⟨⟨?_, ?_⟩, ?_⟩, days⟩ <;> simp only [dateOf] <;> omega

end ClusterConf.Timestamp
