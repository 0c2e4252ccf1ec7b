import ClusterConf.Json.Reader
import ClusterConf.Json.Writer
import ClusterConf.Proofs.Decimals
import Mathlib.Algebra.Group.Int.Defs
import Mathlib.Data.List.TakeDrop
set_option autoImplicit false

/-!
Numbers as they stand in JSON texts. Main statements: a proper literal is scanned as far as it goes,
whole numbers and finite doubles are written as proper literals, and a whole number that fits into
a machine word is the value of its literal.
-/
namespace ClusterConf

theorem toList_pushn (s : String) (c : Char) (n : Nat) :
    (s.pushn c n).toList = s.toList ++ List.replicate n c := by
  rw [String.pushn_eq_repeat_push]
  induction n with
  | zero => simp [Nat.repeat]
  | succ n ih => rw [Nat.repeat, String.toList_push, ih, List.replicate_succ', List.append_assoc]

theorem toList_toString (n : Nat) : (toString n).toList = Nat.toDigits 10 n := by
  rw [Nat.toString_eq_ofList_toDigits, String.toList_ofList]

namespace Json

structure Digits (cs : List Char) : Prop where
  some : cs ≠ []
  all : ∀ c ∈ cs, isDigit c = true

/-- What may stand behind a number: nothing that the number could go on with. -/
def Ends (rest : List Char) : Prop :=
  ∀ c, rest.head? = some c → isDigit c = false ∧ c ≠ '.' ∧ c ≠ 'e' ∧ c ≠ 'E'

theorem isDigit_iff {c : Char} : isDigit c = true ↔ c.isDigit = true := by
  simp only [isDigit, Char.isDigit, Bool.and_eq_true, decide_eq_true_eq]
  exact Iff.rfl

theorem digits_toDigits (n : Nat) : Digits (Nat.toDigits 10 n) where
  some := Nat.toDigits_ne_nil
  all _ member := isDigit_iff.mpr (Nat.isDigit_of_mem_toDigits (by decide) (by decide) member)

theorem eq_zero_of_head {n : Nat} (head : (Nat.toDigits 10 n).head? = some '0') : n = 0 := by
  induction n using Nat.strongRecOn with
  | ind n ih =>
    by_cases small : n < 10
    · rw [Nat.toDigits_of_lt_base small] at head
      exact Nat.digitChar_eq_zero.mp (Option.some.inj head)
    · rw [Nat.toDigits_of_base_le (by decide) (Nat.not_lt.mp small), List.head?_append,
        List.head?_eq_some_head Nat.toDigits_ne_nil, Option.some_or,
        ← List.head?_eq_some_head Nat.toDigits_ne_nil] at head
      have zero := ih (n / 10) (by omega) head
      omega

theorem spanDigits_append {digits rest : List Char} (all : ∀ c ∈ digits, isDigit c = true)
    (stops : ∀ c, rest.head? = some c → isDigit c = false) :
    spanDigits (digits ++ rest) = (digits, rest) := by
  rw [spanDigits, List.span_eq_takeWhile_dropWhile, List.takeWhile_append_of_pos all,
    List.dropWhile_append_of_pos all]
  cases rest with
  | nil => simp
  | cons c rest =>
    have stop : isDigit c = false := stops c rfl
    simp [stop]

namespace Literal

/-- Each part has digits, and the first one no zero in front. -/
structure Proper (l : Literal) : Prop where
  whole : Digits l.whole
  lead : l.whole.head? = some '0' → l.whole.length = 1
  fraction : ∀ digits, l.fraction = some digits → Digits digits
  exponent : ∀ negative digits, l.exponent = some (negative, digits) → Digits digits

def fractionText : Option (List Char) → List Char
  | some digits => '.' :: digits
  | none => []

def exponentText : Option (Bool × List Char) → List Char
  | some (negative, digits) => 'e' :: (if negative then '-' else '+') :: digits
  | none => []

def text (l : Literal) : List Char :=
  (if l.negative then ['-'] else []) ++
    (l.whole ++ (fractionText l.fraction ++ exponentText l.exponent))

/-- The exponent with its mark and its sign, that of a positive one as given. -/
def exponentIn (plus : List Char) : Option (Bool × List Char) → List Char
  | some (negative, digits) => 'e' :: (if negative then ['-'] else plus) ++ digits
  | none => []

/-- The literal as it is written with another sign of positive exponents. -/
def textIn (plus : List Char) (l : Literal) : List Char :=
  (if l.negative then ['-'] else []) ++
    (l.whole ++ (fractionText l.fraction ++ exponentIn plus l.exponent))

theorem textIn_plus (l : Literal) : l.textIn ['+'] = l.text := by
  have same : exponentIn ['+'] l.exponent = exponentText l.exponent := by
    rcases l.exponent with _ | ⟨negative, digits⟩
    · rfl
    · cases negative <;> rfl
  rw [textIn, text, same]

def ofInt (i : Int) : Literal := ⟨decide (i < 0), Nat.toDigits 10 i.natAbs, none, none⟩

theorem proper_ofInt (i : Int) : (ofInt i).Proper where
  whole := digits_toDigits _
  lead head := by
    have zero : i.natAbs = 0 := eq_zero_of_head head
    simp [ofInt, zero]
  fraction := nofun
  exponent := nofun

theorem toList_toString_int (i : Int) : (toString i).toList = (ofInt i).text := by
  cases i with
  | ofNat n =>
    have written : (toString (Int.ofNat n)).toList = Nat.toDigits 10 n := toList_toString n
    rw [written]
    simp [text, ofInt, fractionText, exponentText]
  | negSucc n =>
    have written : (toString (Int.negSucc n)).toList = '-' :: Nat.toDigits 10 (n + 1) := by
      change ("-" ++ toString (n + 1)).toList = _
      rw [String.toList_append, toList_toString]
      rfl
    rw [written]
    simp [text, ofInt, fractionText, exponentText, Int.negSucc_lt_zero]

theorem ends_exponentText {exponent : Option (Bool × List Char)} {rest : List Char}
    (ends : Ends rest) (c : Char) (first : (exponentText exponent ++ rest).head? = some c) :
    isDigit c = false ∧ c ≠ '.' := by
  cases exponent with
  | none => exact ⟨(ends c first).1, (ends c first).2.1⟩
  | some e =>
    obtain rfl : 'e' = c := Option.some.inj first
    decide

theorem scanExponent_text {exponent : Option (Bool × List Char)} {rest : List Char}
    (ends : Ends rest)
    (digits : ∀ negative digits, exponent = some (negative, digits) → Digits digits) :
    scanExponent (exponentText exponent ++ rest) = some (exponent, rest) := by
  cases exponent with
  | none =>
    cases rest with
    | nil => rfl
    | cons c rest =>
      obtain ⟨-, -, lower, upper⟩ := ends c rfl
      simp [exponentText, scanExponent, lower, upper]
  | some e =>
    obtain ⟨negative, ds⟩ := e
    have some := digits negative ds rfl
    have spanned := spanDigits_append some.all fun c first => (ends c first).1
    cases negative <;> simp [exponentText, scanExponent, spanned, some.some]

/-- What is scanned of a number behind its sign. -/
def scanUnsigned (negative : Bool) (cs : List Char) : Option (Literal × List Char) := do
  let (whole, cs) := spanDigits cs
  if whole.isEmpty || (whole.head? == some '0' && whole.length > 1) then none
  else
    match cs with
    | '.' :: rest =>
      let (fraction, rest) := spanDigits rest
      if fraction.isEmpty then none
      else
        let (exponent, rest) ← scanExponent rest
        return (⟨negative, whole, some fraction, exponent⟩, rest)
    | _ =>
      let (exponent, rest) ← scanExponent cs
      return (⟨negative, whole, none, exponent⟩, rest)

theorem scanNumber_minus (cs : List Char) : scanNumber ('-' :: cs) = scanUnsigned true cs := rfl

theorem scanNumber_digit {c : Char} (digit : isDigit c = true) (cs : List Char) :
    scanNumber (c :: cs) = scanUnsigned false (c :: cs) := by
  have other : c ≠ '-' := by
    rintro rfl
    exact absurd digit (by decide)
  unfold scanNumber
  split
  rename_i negative body signed
  split at signed
  · rename_i minus
    exact absurd (List.cons.inj minus).1 other
  · obtain ⟨rfl, rfl⟩ := Prod.mk.inj signed
    rfl

theorem scanUnsigned_text {l : Literal} (proper : l.Proper) {rest : List Char} (ends : Ends rest) :
    scanUnsigned l.negative
      (l.whole ++ (fractionText l.fraction ++ (exponentText l.exponent ++ rest))) =
      some (l, rest) := by
  obtain ⟨negative, whole, fraction, exponent⟩ := l
  obtain ⟨digits, lead, fractions, exponents⟩ := proper
  simp only at digits lead fractions exponents
  have led : (whole.isEmpty || (whole.head? == some '0' && decide (whole.length > 1))) = false := by
    rw [List.isEmpty_eq_false_iff.mpr digits.some, Bool.false_or, Bool.and_eq_false_iff]
    by_cases zero : whole.head? = some '0'
    · exact .inr (by simp [lead zero])
    · exact .inl (by simpa using zero)
  have scanned := scanExponent_text ends exponents
  have stops : ∀ c, (exponentText exponent ++ rest).head? = some c → isDigit c = false ∧ c ≠ '.' :=
    ends_exponentText ends
  unfold scanUnsigned
  cases fraction with
  | none =>
    rw [fractionText, List.nil_append, spanDigits_append digits.all fun c head => (stops c head).1]
    simp only [led, Bool.false_eq_true, if_false]
    split
    · rename_i point
      refine absurd rfl (stops '.' ?_).2
      rw [point]
      rfl
    · rw [scanned]
      rfl
  | some ds =>
    have some := fractions ds rfl
    rw [fractionText, spanDigits_append digits.all fun c point => ?_]
    · simp only [led, Bool.false_eq_true, if_false, List.cons_append]
      rw [spanDigits_append some.all fun c head => (stops c head).1]
      simp only [List.isEmpty_eq_false_iff.mpr some.some, Bool.false_eq_true, if_false]
      rw [scanned]
      rfl
    · obtain rfl : '.' = c := Option.some.inj point
      decide

theorem scanNumber_text {l : Literal} (proper : l.Proper) {rest : List Char} (ends : Ends rest) :
    scanNumber (l.text ++ rest) = some (l, rest) := by
  rw [← scanUnsigned_text proper ends, text, List.append_assoc, List.append_assoc,
    List.append_assoc]
  cases sign : l.negative with
  | true => exact scanNumber_minus _
  | false =>
    obtain ⟨c, more, first⟩ := List.exists_cons_of_ne_nil proper.whole.some
    have digit : isDigit c = true := proper.whole.all c (by rw [first]; exact List.mem_cons_self)
    rw [first]
    exact scanNumber_digit digit _

/-- The decimal that a literal stands for but for its sign: its digits as a whole, and the exponent
of the last one. -/
def decimal (l : Literal) : Nat × Int :=
  (digitsValue (l.whole ++ l.fraction.getD []),
    (match l.exponent with
      | some (negative, digits) =>
        if negative then -(digitsValue digits : Int) else digitsValue digits
      | none => 0) - (l.fraction.getD []).length)

theorem digitsValue_append (ds es : List Char) :
    digitsValue (ds ++ es) = digitsValue ds * 10 ^ es.length + digitsValue es := by
  have onward : ∀ (cs : List Char) (n : Nat), cs.foldl (fun n c => n * 10 + digitValue c) n =
      n * 10 ^ cs.length + digitsValue cs := by
    intro cs
    induction cs with
    | nil => intro n; simp [digitsValue]
    | cons c cs ih =>
      intro n
      rw [digitsValue, List.foldl_cons, List.foldl_cons, ih, ih (0 * 10 + digitValue c),
        List.length_cons, Nat.pow_succ']
      grind
  rw [digitsValue, List.foldl_append, onward]
  rfl

theorem digitsValue_zeros (n : Nat) : digitsValue (List.replicate n '0') = 0 := by
  induction n with
  | zero => rfl
  | succ n ih =>
    rw [List.replicate_succ', digitsValue_append, ih]
    rfl

theorem digitsValue_toDigits (n : Nat) : digitsValue (Nat.toDigits 10 n) = n := by
  have valued : ∀ cs : List Char, digitsValue cs = Nat.ofDigitChars 10 cs 0 := by
    intro cs
    rw [Nat.ofDigitChars_eq_foldl, digitsValue]
    simp only [digitValue, Nat.mul_comm]
  rw [valued, Nat.ofDigitChars_ten_toDigits]

/-- The numbers that fit into 64 bits, with or without a sign, are read as what they are. -/
theorem value_ofInt {i : Int} (low : -(2 ^ 63) ≤ i) (high : i < 2 ^ 64) :
    (ofInt i).value = .integer i := by
  have whole : digitsValue (ofInt i).whole = i.natAbs := digitsValue_toDigits _
  have most : maxSignificand = 2 ^ 64 - 1 := rfl
  have least : Nat.pow 2 63 = 2 ^ 63 := rfl
  unfold value
  simp only [whole, most, least]
  by_cases negative : i < 0
  · have size : 0 < i.natAbs ∧ i.natAbs ≤ 2 ^ 63 := by omega
    have back : -(i.natAbs : Int) = i := by omega
    simp only [ofInt, negative, size, back, Option.isNone_none, decide_true, Bool.and_self,
      Bool.not_true, Bool.and_false, Bool.false_and, Bool.false_eq_true, if_false, if_true]
  · have size : i.natAbs ≤ 2 ^ 64 - 1 := by omega
    have back : (i.natAbs : Int) = i := by omega
    simp only [ofInt, negative, size, back, Option.isNone_none, decide_true, decide_false,
      Bool.and_self, Bool.not_false, if_true]

/-- A literal with a point or an exponent. -/
structure Fractional (l : Literal) : Prop where
  proper : l.Proper
  broken : (l.fraction.isNone && l.exponent.isNone) = false

theorem Fractional.value {l : Literal} (fractional : l.Fractional) :
    l.value = match l.double? with
      | some d => .number d
      | none => .unreadable := by
  have not_natural : ¬((l.fraction.isNone && l.exponent.isNone) && !l.negative
      && digitsValue l.whole ≤ maxSignificand) = true := by
    simp only [fractional.broken, Bool.false_and, Bool.false_eq_true, not_false_eq_true]
  have not_negative : ¬((l.fraction.isNone && l.exponent.isNone) && l.negative
      && 0 < digitsValue l.whole && digitsValue l.whole ≤ Nat.pow 2 63) = true := by
    simp only [fractional.broken, Bool.false_and, Bool.false_eq_true, not_false_eq_true]
  exact (if_neg not_natural).trans (if_neg not_negative)

end Literal

/-- The literal of a decimal number with digits behind the point, which is all that is written of
many doubles. -/
theorem fractional_point {whole fraction : List Char} (digits : Digits whole)
    (lead : whole.head? = some '0' → whole.length = 1) (more : Digits fraction) :
    (⟨false, whole, some fraction, none⟩ : Literal).Fractional where
  proper := {
    whole := digits
    lead
    fraction _ same := Option.some.inj same ▸ more
    exponent := nofun }
  broken := rfl

theorem Digits.append_zeros {cs : List Char} (digits : Digits cs) (n : Nat) :
    Digits (cs ++ List.replicate n '0') where
  some := List.append_ne_nil_of_left_ne_nil digits.some _
  all c member := by
    rcases List.mem_append.mp member with inside | zero
    · exact digits.all c inside
    · rw [List.eq_of_mem_replicate zero]
      decide

theorem Digits.zeros_append {cs : List Char} (digits : Digits cs) (n : Nat) :
    Digits (List.replicate n '0' ++ cs) where
  some := List.append_ne_nil_of_right_ne_nil _ digits.some
  all c member := by
    rcases List.mem_append.mp member with zero | inside
    · rw [List.eq_of_mem_replicate zero]
      decide
    · exact digits.all c inside

theorem Digits.take {cs : List Char} (digits : Digits cs) {n : Nat} (some : 0 < n) :
    Digits (cs.take n) where
  some := by
    have long := List.length_pos_iff.mpr digits.some
    rw [← List.length_pos_iff, List.length_take]
    omega
  all c member := digits.all c (List.mem_of_mem_take member)

theorem Digits.drop {cs : List Char} (digits : Digits cs) {n : Nat} (some : n < cs.length) :
    Digits (cs.drop n) where
  some := by
    rw [← List.length_pos_iff, List.length_drop]
    omega
  all c member := digits.all c (List.mem_of_mem_drop member)

theorem digits_zero : Digits ['0'] := ⟨nofun, List.forall_mem_singleton.mpr rfl⟩

/-- One digit in front of the point, a point only if there are more, and an exponent. -/
def scientific (ds : List Char) (e : Int) : Literal where
  negative := false
  whole := ds.take 1
  fraction := if ds.length = 1 then none else some (ds.drop 1)
  exponent := some (decide (e < 0), Nat.toDigits 10 e.natAbs)

theorem fractional_scientific {ds : List Char} (digits : Digits ds) (e : Int) :
    (scientific ds e).Fractional := by
  have filled := List.length_pos_iff.mpr digits.some
  refine ⟨⟨digits.take Nat.one_pos, fun _ => ?_, fun more same => ?_, fun negative more same => ?_⟩,
    ?_⟩
  · rw [scientific, List.length_take]
    omega
  · obtain ⟨long, rfl⟩ : ds.length ≠ 1 ∧ ds.drop 1 = more := by simpa [scientific] using same
    exact digits.drop (by omega)
  · obtain ⟨-, rfl⟩ := Prod.mk.inj (Option.some.inj same)
    exact digits_toDigits _
  · simp [scientific]

theorem decimal_scientific {ds : List Char} (digits : Digits ds) (e : Int) :
    (scientific ds e).decimal = (digitsValue ds, e + 1 - ds.length) := by
  have filled := List.length_pos_iff.mpr digits.some
  have exponent : (if decide (e < 0) = true then -(digitsValue (Nat.toDigits 10 e.natAbs) : Int)
      else digitsValue (Nat.toDigits 10 e.natAbs)) = e := by
    rw [Literal.digitsValue_toDigits]
    simp only [decide_eq_true_eq]
    split <;> omega
  have parts : ds.take 1 ++ (if ds.length = 1 then none else some (ds.drop 1)).getD [] = ds ∧
      ((if ds.length = 1 then none else some (ds.drop 1)).getD []).length = ds.length - 1 := by
    split
    · rename_i single
      simp [List.take_of_length_le (Nat.le_of_eq single), single]
    · exact ⟨List.take_append_drop 1 ds, List.length_drop⟩
  simp only [Literal.decimal, scientific, exponent, parts]
  congr 1
  omega

theorem toList_mantissa (c : Nat) (e : Int) :
    (if (Nat.toDigits 10 c).length = 1 then toString c
      else ((toString c).take 1).toString ++ "." ++ ((toString c).drop 1).toString).toList =
    (scientific (Nat.toDigits 10 c) e).whole ++
      Literal.fractionText (scientific (Nat.toDigits 10 c) e).fraction := by
  rw [scientific]
  split
  · rename_i single
    rw [toList_toString, List.take_of_length_le (Nat.le_of_eq single)]
    simp [Literal.fractionText]
  · simp [Literal.fractionText]

/-- A text is a decimal number: it has a point or an exponent, and no superfluous zeros in front. -/
def Renders (style : Double.Style) (c : Nat) (k : Int) (text : String) : Prop :=
  ∃ l : Literal, l.Fractional ∧ l.negative = false ∧ Double.SameValue l.decimal (c, k) ∧
    text.toList = l.textIn style.positiveExponent.toList

theorem length_of_zero {c : Nat} (head : (Nat.toDigits 10 c).head? = some '0') :
    (Nat.toDigits 10 c).length = 1 := by
  rw [eq_zero_of_head head]
  rfl

section Styles

variable {style : Double.Style} {c : Nat} {k : Int}

/-- The last digits are zeros that the decimal number leaves out. -/
theorem renders_whole (lead : Double.Leads (c, k)) (whole : 0 ≤ k) :
    Renders style c k (toString c ++ "".pushn '0' k.toNat ++ ".0") := by
  have digits := digits_toDigits c
  refine ⟨_, fractional_point (digits.append_zeros k.toNat) ?_ digits_zero, rfl, ?_, ?_⟩
  · intro head
    rw [List.head?_append, List.head?_eq_some_head digits.some, Option.some_or,
      ← List.head?_eq_some_head digits.some] at head
    have none : k.toNat = 0 := by
      rcases lead with some | none
      · exact absurd (eq_zero_of_head head) (Nat.ne_of_gt some)
      · omega
    rw [none, List.replicate_zero, List.append_nil]
    exact length_of_zero head
  · have none : (-k).toNat = 0 := by omega
    have last : digitsValue ['0'] = 0 := rfl
    simp [Double.SameValue, Literal.decimal, Literal.digitsValue_append, Literal.digitsValue_zeros,
      Literal.digitsValue_toDigits, none, last, Nat.pow_succ, Nat.mul_assoc]
  · simp [Literal.textIn, Literal.fractionText, Literal.exponentIn, toList_pushn]

theorem renders_of_eq {text : String} {l : Literal} (fractional : l.Fractional)
    (plain : l.negative = false) (same : l.decimal = (c, k))
    (written : text.toList = l.textIn style.positiveExponent.toList) : Renders style c k text := by
  refine ⟨l, fractional, plain, ?_, written⟩
  rw [same]
  rfl

/-- The point is among the digits. -/
theorem renders_pointed {point : Nat} (some : 0 < point)
    (inside : ((Nat.toDigits 10 c).length : Int) + k = point) (fraction : k < 0) :
    Renders style c k
      (((toString c).take point).toString ++ "." ++ ((toString c).drop point).toString) := by
  have digits := digits_toDigits c
  have before : point < (Nat.toDigits 10 c).length := by omega
  refine renders_of_eq (fractional_point (digits.take some) (fun head => ?_) (digits.drop before))
    rfl ?_ ?_
  · rw [List.head?_take, if_neg (Nat.ne_of_gt some)] at head
    rw [List.length_take, length_of_zero head]
    omega
  · simp only [Literal.decimal, Option.getD_some, List.take_append_drop,
      Literal.digitsValue_toDigits, List.length_drop]
    congr 1
    omega
  · simp [Literal.textIn, Literal.fractionText, Literal.exponentIn]

/-- The point is in front of the digits, with zeros in between. -/
theorem renders_small {zeros : Nat} (small : ((Nat.toDigits 10 c).length : Int) + k = -zeros) :
    Renders style c k ("0." ++ "".pushn '0' zeros ++ toString c) := by
  refine renders_of_eq
    (fractional_point digits_zero (fun _ => rfl) ((digits_toDigits c).zeros_append zeros)) rfl ?_ ?_
  · have first : digitsValue ['0'] = 0 := rfl
    simp only [Literal.decimal, Option.getD_some, Literal.digitsValue_append, first,
      Literal.digitsValue_zeros, Literal.digitsValue_toDigits, List.length_append,
      List.length_replicate, Nat.zero_mul, Nat.zero_add]
    congr 1
    omega
  · simp [Literal.textIn, Literal.fractionText, Literal.exponentIn, toList_pushn]

theorem renders_scientific {e : Int} (shifted : ((Nat.toDigits 10 c).length : Int) + k - 1 = e) :
    Renders style c k ((if (Nat.toDigits 10 c).length = 1 then toString c
      else ((toString c).take 1).toString ++ "." ++ ((toString c).drop 1).toString) ++ "e" ++
        (if e < 0 then "-" else style.positiveExponent) ++ toString e.natAbs) := by
  refine renders_of_eq (fractional_scientific (digits_toDigits c) e) rfl ?_ ?_
  · rw [decimal_scientific (digits_toDigits c), Literal.digitsValue_toDigits]
    congr 1
    omega
  · have sign : (if e < 0 then "-" else style.positiveExponent).toList =
        if e < 0 then ['-'] else style.positiveExponent.toList := by
      split <;> rfl
    rw [String.toList_append, String.toList_append, String.toList_append, toList_mantissa c e, sign,
      toList_toString]
    simp [Literal.textIn, Literal.exponentIn, scientific]

/-- A decimal number is written with a point or an exponent, and without superfluous zeros in front
of it. -/
theorem writeDecimal_text (lead : Double.Leads (c, k)) :
    Renders style c k (Double.writeDecimal style c k) := by
  have length : (toString c).length = (Nat.toDigits 10 c).length := by
    rw [← toList_toString, String.length_toList]
  unfold Double.writeDecimal
  simp only [length]
  split
  case isTrue whole =>
    simp only [Bool.and_eq_true, decide_eq_true_eq] at whole
    exact renders_whole lead whole.1
  case isFalse other =>
    split
    case isTrue pointed =>
      simp only [Bool.and_eq_true, decide_eq_true_eq] at other pointed
      exact renders_pointed (by omega) (by omega) (by omega)
    case isFalse =>
      split
      case isTrue small =>
        simp only [Bool.and_eq_true, decide_eq_true_eq] at small
        exact renders_small (by omega)
      case isFalse => exact renders_scientific rfl

end Styles

/-- A finite double is written as a literal with a point or an exponent, of its sign and of the
value of its shortest decimal. -/
theorem write_textIn (style : Double.Style) {d : Double} (finite : d.isFinite = true) :
    ∃ l : Literal, l.Fractional ∧
      (d.write style).toList = l.textIn style.positiveExponent.toList ∧
      l.negative = d.isNegative ∧ (d.isZero = true → l.decimal.1 = 0) ∧
      (d.isZero = false → Double.SameValue l.decimal d.shortestDecimal) := by
  have leads := fun nonzero : d.isZero = false => Double.leads_shortestDecimal finite nonzero
  unfold Double.write
  simp only
  generalize d.shortestDecimal = p at leads
  have unsigned : ∃ l : Literal, l.Fractional ∧ l.negative = false ∧
      (d.isZero = true → l.decimal.1 = 0) ∧ (d.isZero = false → Double.SameValue l.decimal p) ∧
      (if d.isZero then "0.0" else Double.writeDecimal style p.1 p.2).toList =
        l.textIn style.positiveExponent.toList := by
    cases zero : d.isZero with
    | true =>
      refine ⟨_, fractional_point digits_zero (fun _ => rfl) digits_zero, rfl, fun _ => rfl, nofun,
        ?_⟩
      rw [if_pos rfl]
      rfl
    | false =>
      obtain ⟨l, fractional, plain, value, written⟩ := writeDecimal_text (leads zero)
      refine ⟨l, fractional, plain, nofun, fun _ => value, ?_⟩
      rw [if_neg Bool.false_ne_true, written]
  obtain ⟨l, ⟨proper, broken⟩, plain, zero, value, written⟩ := unsigned
  cases sign : d.isNegative with
  | true =>
    refine ⟨{ l with negative := true }, ⟨⟨proper.whole, proper.lead, proper.fraction,
      proper.exponent⟩, broken⟩, ?_, rfl, zero, value⟩
    rw [if_pos rfl, String.toList_append, written, Literal.textIn, plain]
    rfl
  | false => exact ⟨l, ⟨proper, broken⟩, written, plain, zero, value⟩

theorem write_text {d : Double} (finite : d.isFinite = true) :
    ∃ l : Literal, l.Fractional ∧ (d.write doubleStyle).toList = l.text ∧
      l.negative = d.isNegative ∧ (d.isZero = true → l.decimal.1 = 0) ∧
      (d.isZero = false → Double.SameValue l.decimal d.shortestDecimal) := by
  obtain ⟨l, fractional, written, value⟩ := write_textIn doubleStyle finite
  exact ⟨l, fractional, written.trans l.textIn_plus, value⟩

end Json
end ClusterConf
