import ClusterConf.Proofs.Dates
import ClusterConf.Proofs.JsonNumerals
set_option autoImplicit false

/-!
Texts of points in time. Main statement: a point in time of a known year is read as it was written,
unless it is in a leap second.
-/
namespace ClusterConf.Timestamp

open Json (Digits)

theorem toList_padded (width n : Nat) : (padded width n).toList =
    List.replicate (width - (Nat.toDigits 10 n).length) '0' ++ Nat.toDigits 10 n := by
  rw [padded, String.toList_append, toList_pushn, toList_toString, ← String.length_toList,
    toList_toString]
  rfl

theorem digits_padded (width n : Nat) : Digits (padded width n).toList := by
  rw [toList_padded]
  exact (Json.digits_toDigits n).zeros_append _

theorem digitsValue_padded (width n : Nat) : digitsValue (padded width n).toList = n := by
  change Json.digitsValue _ = n
  rw [toList_padded, Json.Literal.digitsValue_append, Json.Literal.digitsValue_zeros,
    Json.Literal.digitsValue_toDigits]
  omega

theorem length_padded {width n : Nat} (some : 0 < width) (small : n < 10 ^ width) :
    (padded width n).toList.length = width := by
  have fits := (Nat.length_toDigits_le_iff (by decide) some).mpr small
  rw [toList_padded, List.length_append, List.length_replicate]
  omega

/-- Digits are read as far as they go, or until there are enough of them. -/
theorem number?_append {width : Nat} {cs rest : List Char} (digits : Digits cs)
    (fits : cs.length ≤ width)
    (stops : cs.length = width ∨ ∀ c, rest.head? = some c → isDigit c = false) :
    number? width (cs ++ rest) = some (digitsValue cs, rest) := by
  have all : ∀ c ∈ cs, isDigit c = true := digits.all
  have run : ((cs ++ rest).take width).takeWhile isDigit = cs := by
    rw [List.take_append, List.take_of_length_le fits, List.takeWhile_append_of_pos all]
    rcases stops with full | stops
    · simp [full]
    · cases rest with
      | nil => simp
      | cons c rest =>
        have stop : isDigit c = false := stops c rfl
        cases width - cs.length <;> simp [stop]
  have filled : cs.isEmpty = false := by
    simpa using digits.some
  rw [number?, run]
  simp [filled]

theorem number?_padded {width n : Nat} (some : 0 < width) (small : n < 10 ^ width)
    (rest : List Char) : number? width ((padded width n).toList ++ rest) = .some (n, rest) := by
  have length := length_padded some small
  rw [number?_append (digits_padded width n) (Nat.le_of_eq length) (.inl length),
    digitsValue_padded]

theorem not_blank_of_digit {c : Char} (digit : isDigit c = true) : Text.isBlank c = false := by
  obtain ⟨low, high⟩ : '0' ≤ c ∧ c ≤ '9' := by simpa [isDigit] using digit
  have least : 48 ≤ c.toNat := low
  have greatest : c.toNat ≤ 57 := high
  simp only [Text.isBlank, Bool.or_eq_false_iff, Bool.and_eq_false_iff, beq_eq_false_iff_ne,
    decide_eq_false_iff_not]
  omega

theorem skipBlanks_digits {cs : List Char} (digits : Digits cs) (rest : List Char) :
    skipBlanks (cs ++ rest) = cs ++ rest := by
  obtain ⟨c, more, rfl⟩ := List.exists_cons_of_ne_nil digits.some
  have printed := not_blank_of_digit (digits.all c List.mem_cons_self)
  simp [skipBlanks, printed]

theorem twoDigits?_padded {n : Nat} (small : n < 100) (rest : List Char) :
    twoDigits? ((padded 2 n).toList ++ rest) = some (n, rest) := by
  rw [twoDigits?, skipBlanks_digits (digits_padded 2 n)]
  exact number?_padded (by decide) small rest

theorem year?_padded {n : Nat} (small : n < 10 ^ 4) (rest : List Char) :
    year? ((padded 4 n).toList ++ rest) = some ((n : Int), rest) := by
  have digits := digits_padded 4 n
  have unsigned : ∀ {sign : Char} {more : List Char}, isDigit sign = false →
      (padded 4 n).toList ++ rest ≠ sign :: more := by
    intro sign more other same
    obtain ⟨c, cs, split⟩ := List.exists_cons_of_ne_nil digits.some
    rw [split, List.cons_append, List.cons.injEq] at same
    have digit : isDigit c = true := digits.all c (by rw [split]; exact List.mem_cons_self)
    rw [same.1, other] at digit
    cases digit
  rw [year?, skipBlanks_digits digits]
  split
  · exact absurd ‹_› (unsigned rfl)
  · exact absurd ‹_› (unsigned rfl)
  · rw [number?_padded (by decide) small rest]
    rfl

/-- A year with a sign is read up to the dash behind it. -/
theorem number?_year (n : Nat) (rest : List Char) :
    let cs := (padded 4 n).toList ++ '-' :: rest
    number? cs.length cs = some (n, '-' :: rest) := by
  intro cs
  have stops : ∀ c, ('-' :: rest).head? = some c → isDigit c = false := by
    intro c same
    obtain rfl := Option.some.inj same
    rfl
  have fits : (padded 4 n).toList.length ≤ cs.length := by simp [cs]
  have read := number?_append (digits_padded 4 n) fits (.inr stops)
  rwa [digitsValue_padded] at read

theorem year?_text (y : Int) (rest : List Char) :
    year? ((yearText y).toList ++ '-' :: rest) = some (y, '-' :: rest) := by
  have minus : ∀ cs, year? ('-' :: cs) =
      (number? cs.length cs).map fun read => (-(read.1 : Int), read.2) := fun _ => rfl
  have plus : ∀ cs, year? ('+' :: cs) =
      (number? cs.length cs).map fun read => ((read.1 : Int), read.2) := fun _ => rfl
  rw [yearText]
  split
  case isTrue plain =>
    simp only [Bool.and_eq_true, decide_eq_true_eq] at plain
    have small : y.toNat < 10 ^ 4 := by omega
    rw [year?_padded small, Int.toNat_of_nonneg plain.1]
  case isFalse =>
    split
    · have begins : ("-" ++ padded 4 y.natAbs).toList ++ '-' :: rest =
          '-' :: ((padded 4 y.natAbs).toList ++ '-' :: rest) := by simp
      rw [begins, minus, number?_year]
      simp only [Option.map_some, Option.some.injEq, Prod.mk.injEq, and_true]
      omega
    · have begins : ("+" ++ padded 4 y.natAbs).toList ++ '-' :: rest =
          '+' :: ((padded 4 y.natAbs).toList ++ '-' :: rest) := by simp
      rw [begins, plus, number?_year]
      simp only [Option.map_some, Option.some.injEq, Prod.mk.injEq, and_true]
      omega

/-- The fraction of a second is read up to the letter behind it. -/
theorem fraction?_text {nanos : Nat} (small : nanos < 1000000000) :
    fraction? ((fractionText nanos).toList ++ ['Z']) = some (nanos, ['Z']) := by
  have stops : ∀ c, ['Z'].head? = some c → isDigit c = false := by
    intro c same
    obtain rfl := Option.some.inj same
    rfl
  have point : ∀ {width n : Nat}, 0 < width → width ≤ 9 → n < 10 ^ width →
      fraction? (("." ++ padded width n).toList ++ ['Z']) = some (n * 10 ^ (9 - width), ['Z']) := by
    intro width n some fits small
    have length := length_padded some small
    have nine : (padded width n).toList.length ≤ 9 := by omega
    have read := number?_append (digits_padded width n) nine (.inr stops)
    have begins : ("." ++ padded width n).toList ++ ['Z'] =
        '.' :: ((padded width n).toList ++ ['Z']) := by simp
    rw [begins, fraction?, read, digitsValue_padded]
    have taken : ((padded width n).toList ++ ['Z']).length - ['Z'].length = width := by
      rw [List.length_append, length]
      omega
    simp only [taken]
    rfl
  rw [fractionText]
  split
  · rename_i none
    rw [none]
    rfl
  · split
    · rename_i thousands
      rw [point (by decide) (by decide) (by omega)]
      congr 2
      omega
    · split
      · rename_i thousands
        rw [point (by decide) (by decide) (by omega)]
        congr 2
        omega
      · rw [point (by decide) (by decide) small]
        simp

/-- A point in time of a known year that is in no leap second. -/
structure Plain (t : Timestamp) : Prop where
  known : isKnownYear (Date.ofDays (t.seconds.fdiv 86400)).year = true
  nanos : t.nanos < 1000000000

instance (t : Timestamp) : Decidable t.Plain :=
  decidable_of_iff
    (isKnownYear (Date.ofDays (t.seconds.fdiv 86400)).year = true ∧ t.nanos < 1000000000)
    ⟨fun ⟨known, nanos⟩ => ⟨known, nanos⟩, fun plain => ⟨plain.known, plain.nanos⟩⟩

theorem bind_of_eq {α β : Type} {o : Option α} {a : α} {f : α → Option β} (found : o = some a) :
    (o >>= f) = f a := by
  rw [found]
  rfl

/-- A point in time is read as it was written. -/
theorem ofText?_zuluText {t : Timestamp} (plain : t.Plain) : ofText? t.zuluText = some t := by
  let day := t.seconds.fdiv 86400
  let second := (t.seconds - day * 86400).toNat
  let d := Date.ofDays day
  have rounded : day = t.seconds / 86400 := Int.fdiv_eq_ediv_of_nonneg _ (by decide)
  have valid : d.isValid = true := isValid_ofDays plain.known
  have days : d.toDays = day := toDays_ofDays day
  obtain ⟨month, dayOfMonth⟩ : d.month < 100 ∧ d.day < 100 := by
    simp only [Date.isValid, Bool.and_eq_true, decide_eq_true_eq] at valid
    have longest : daysInMonth d.year d.month ≤ 31 := by
      unfold daysInMonth
      split
      · split <;> omega
      all_goals omega
    omega
  have nanos := plain.nanos
  have noLeap : t.nanos / 1000000000 = 0 := by omega
  have fraction : t.nanos % 1000000000 = t.nanos := by omega
  have written : t.zuluText.toList =
      (yearText d.year).toList ++ '-' :: ((padded 2 d.month).toList ++
      '-' :: ((padded 2 d.day).toList ++ 'T' :: ((padded 2 (second / 3600)).toList ++
      ':' :: ((padded 2 (second / 60 % 60)).toList ++ ':' :: ((padded 2 (second % 60)).toList ++
      ((fractionText t.nanos).toList ++ ['Z'])))))) := by
    simp [zuluText, plainText, noLeap, fraction, d, second, day]
  have dash : ∀ cs, mark? '-' ('-' :: cs) = some cs := fun _ => rfl
  have colon : ∀ cs, mark? ':' (':' :: cs) = some cs := fun _ => rfl
  have zulu : offset? (skipBlanks ['Z']) = some (0, []) := rfl
  rw [ofText?, written]
  -- Each part is read off the front of the text.
  refine (bind_of_eq (year?_text d.year _)).trans ?_
  refine (bind_of_eq (dash _)).trans ?_
  refine (bind_of_eq (twoDigits?_padded month _)).trans ?_
  refine (bind_of_eq (dash _)).trans ?_
  refine (bind_of_eq (twoDigits?_padded dayOfMonth _)).trans ?_
  refine (bind_of_eq rfl).trans ?_
  refine (bind_of_eq (twoDigits?_padded (show second / 3600 < 100 by omega) _)).trans ?_
  refine (bind_of_eq (colon _)).trans ?_
  refine (bind_of_eq (twoDigits?_padded (show second / 60 % 60 < 100 by omega) _)).trans ?_
  refine (bind_of_eq (colon _)).trans ?_
  refine (bind_of_eq (twoDigits?_padded (show second % 60 < 100 by omega) _)).trans ?_
  refine (bind_of_eq (fraction?_text nanos)).trans ?_
  refine (bind_of_eq zulu).trans ?_
  dsimp only
  have seconds : d.toDays * 86400 +
      ((second / 3600 * 3600 + second / 60 % 60 * 60 + second % 60 : Nat) : Int) - 0 =
        t.seconds := by
    rw [days]
    omega
  have range : (d.isValid && decide (second / 3600 < 24) && decide (second / 60 % 60 < 60) &&
      decide (second % 60 ≤ 60) && (skipBlanks []).isEmpty) = true := by
    have hours : second / 3600 < 24 := by omega
    have minutes : second / 60 % 60 < 60 := by omega
    have rest : second % 60 ≤ 60 := by omega
    simp [valid, hours, minutes, rest, skipBlanks]
  have ordinary : second % 60 ≠ 60 := by omega
  rw [if_pos range, if_neg ordinary, seconds, if_pos plain.known]
  rfl

end ClusterConf.Timestamp
