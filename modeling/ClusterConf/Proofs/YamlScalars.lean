import ClusterConf.Proofs.CodecLaws
import ClusterConf.Proofs.CompactTexts
import ClusterConf.Proofs.NearestDoubles
import ClusterConf.Yaml.Reader
import ClusterConf.Yaml.Style
set_option autoImplicit false

/-!
Values as YAML scalars. Main statements: whole numbers and finite doubles are read from their plain
texts as what they are, whatever texts may look like they are not taken for anything else, and so
the nodes of a document stand for the values that it holds.
-/
namespace ClusterConf

open Json (Digits Literal digitsValue)
open Json.Literal (fractionText exponentIn)

/-- A finite double is what the literal that it is written as is rounded to. -/
theorem Double.ofDecimal_of_literal {d : Double} (finite : d.isFinite = true) {l : Literal}
    (zero : d.isZero = true → l.decimal.1 = 0)
    (value : d.isZero = false → SameValue l.decimal d.shortestDecimal) :
    ofDecimal d.isNegative l.decimal.1 l.decimal.2 = d := by
  cases none : d.isZero with
  | false =>
    have inside := (holds_congr (value none)).mpr (holds_shortestDecimal finite none)
    exact ofDecimal_eq finite none inside
  | true =>
    obtain ⟨significand, least⟩ := parts_of_isZero none
    have fields : d.exponentField * 2 ^ 52 + d.fractionField = 0 := by
      have hidden : Nat.pow 2 52 = 2 ^ 52 := rfl
      rw [Double.significand, hidden] at significand
      split at significand <;> omega
    have rounded : ofDecimal d.isNegative l.decimal.1 l.decimal.2 = .zero d.isNegative := by
      simp [ofDecimal, zero none]
    rw [rounded, Double.zero, ← fields, ofParts_fields]

namespace Yaml

namespace Scalar

theorem digit?_eq {c : Char} (digit : Json.isDigit c = true) :
    digit? 10 c = some (Json.digitValue c) := by
  have own : isDigit c = true := digit
  have small : Json.digitValue c < 10 := by
    simp only [Json.isDigit, Bool.and_eq_true, decide_eq_true_eq] at digit
    obtain ⟨-, most⟩ := digit
    have most : c.toNat ≤ 57 := most
    have first : '0'.toNat = 48 := rfl
    rw [Json.digitValue, first]
    omega
  rw [digit?, if_pos own]
  exact if_pos small

theorem digits?_eq {cs : List Char} (digits : Digits cs) :
    digits? 10 cs = some (digitsValue cs) := by
  obtain ⟨filled, all⟩ := digits
  have onward : ∀ n, cs.foldlM (fun n c => (digit? 10 c).map (10 * n + ·)) n =
      some (cs.foldl (fun n c => n * 10 + Json.digitValue c) n) := by
    clear filled
    induction cs with
    | nil => exact fun n => rfl
    | cons c cs ih =>
      obtain ⟨first, later⟩ := List.forall_mem_cons.mp all
      intro n
      rw [List.foldlM_cons, digit?_eq first, List.foldl_cons, Nat.mul_comm n 10]
      exact ih later _
  rw [digits?, List.isEmpty_eq_false_iff.mpr filled, if_neg Bool.false_ne_true]
  exact onward 0

theorem magnitude?_eq {cs : List Char} (digits : Digits cs)
    (lead : cs.head? = some '0' → cs.length = 1) : magnitude? cs = some (digitsValue cs) := by
  unfold magnitude?
  split
  case h_4 =>
    rw [decimal?, digits?_eq digits]
    refine if_neg ?_
    simp only [Bool.and_eq_true, beq_iff_eq, decide_eq_true_eq]
    rintro ⟨zero, long⟩
    have short := lead zero
    omega
  all_goals
    have short := lead rfl
    simp at short

theorem ne_cons {cs rest : List Char} (digits : Digits cs) {c : Char}
    (other : Json.isDigit c = false) : cs ≠ c :: rest := by
  rintro rfl
  have digit := digits.all c List.mem_cons_self
  rw [other] at digit
  cases digit

theorem append_ne_cons {cs more rest : List Char} (digits : Digits cs) {c : Char}
    (other : Json.isDigit c = false) : cs ++ more ≠ c :: rest := by
  obtain ⟨first, others, rfl⟩ := List.exists_cons_of_ne_nil digits.some
  intro same
  obtain rfl := (List.cons.inj same).1
  exact ne_cons digits other rfl

theorem naturalOf?_eq {cs : List Char} (digits : Digits cs)
    (lead : cs.head? = some '0' → cs.length = 1) : naturalOf? cs = some (digitsValue cs) := by
  unfold naturalOf?
  split
  · exact absurd rfl (ne_cons digits (by decide))
  · exact magnitude?_eq digits lead

theorem integer?_toString (i : Int) : integer? (toString i) = some i := by
  obtain ⟨digits, lead, -, -⟩ := Literal.proper_ofInt i
  have value : digitsValue (Literal.ofInt i).whole = i.natAbs := Literal.digitsValue_toDigits _
  have written : (toString i).toList =
      (if i < 0 then ['-'] else []) ++ (Literal.ofInt i).whole := by
    rw [Literal.toList_toString_int, Literal.text]
    simp [Literal.ofInt, fractionText, Literal.exponentText]
  rw [integer?, written]
  by_cases negative : i < 0
  · rw [if_pos negative, List.singleton_append]
    have same : -(i.natAbs : Int) = i := by omega
    simp only [magnitude?_eq digits lead, value]
    exact congrArg some same
  · rw [if_neg negative, List.nil_append]
    split
    · rename_i minus
      exact absurd minus (ne_cons digits (by decide))
    · have same : (i.natAbs : Int) = i := by omega
      simp only [naturalOf?_eq digits lead, value]
      exact congrArg some same

theorem natural?_toString (n : Nat) : natural? (toString (n : Int)) = some n := by
  have written : (toString (n : Int)).toList = Nat.toDigits 10 n := toList_toString n
  have lead := (Literal.proper_ofInt n).lead
  rw [natural?, written, naturalOf?_eq (Json.digits_toDigits n) lead, Literal.digitsValue_toDigits]

theorem span_digits {digits rest : List Char} (all : ∀ c ∈ digits, Json.isDigit c = true)
    (stops : ∀ c, rest.head? = some c → Json.isDigit c = false) :
    (digits ++ rest).takeWhile isDigit = digits ∧ (digits ++ rest).dropWhile isDigit = rest := by
  have spans := Json.spanDigits_append all stops
  rw [Json.spanDigits, List.span_eq_takeWhile_dropWhile] at spans
  exact Prod.mk.inj spans

/-- The exponent behind the digits of a literal is that of the decimal but for the digits of the
fraction. -/
theorem exponent?_text {l : Literal} (proper : l.Proper) :
    exponent? (exponentIn [] l.exponent) = some (l.decimal.2 + (l.fraction.getD []).length) := by
  obtain ⟨sign, whole, fraction, exponent⟩ := l
  simp only [Literal.decimal, Int.sub_add_cancel]
  rcases exponent with _ | ⟨negative, ds⟩
  · rfl
  · have some : Digits ds := proper.exponent negative ds rfl
    cases negative with
    | true =>
      change exponent? ('e' :: '-' :: ds) = _
      simp [exponent?, digits?_eq some]
    | false =>
      change exponent? ('e' :: ds) = _
      rw [exponent?]
      · simp [digits?_eq some]
      · exact fun _ => ne_cons some (by decide)
      · exact fun _ => ne_cons some (by decide)

theorem digits_of_proper {l : Literal} (proper : l.Proper) :
    Digits (l.whole ++ l.fraction.getD []) := by
  refine ⟨List.append_ne_nil_of_left_ne_nil proper.whole.some _, ?_⟩
  refine List.forall_mem_append.mpr ⟨proper.whole.all, ?_⟩
  cases same : l.fraction with
  | none => exact List.forall_mem_nil _
  | some ds => exact (proper.fraction ds same).all

/-- A literal without its sign is read as the decimal that it stands for, rounded. -/
theorem unsigned?_text {l : Literal} (proper : l.Proper) (negative : Bool)
    (finite : (Double.ofDecimal negative l.decimal.1 l.decimal.2).isFinite = true) :
    unsigned? negative (l.whole ++ (fractionText l.fraction ++ exponentIn [] l.exponent)) =
      some (Double.ofDecimal negative l.decimal.1 l.decimal.2) := by
  have last := exponent?_text proper
  have ends : ∀ c, (exponentIn [] l.exponent).head? = some c →
      Json.isDigit c = false ∧ c ≠ '.' := by
    rcases l.exponent with _ | ⟨below, ds⟩
    · exact nofun
    · rintro c same
      obtain rfl : 'e' = c := Option.some.inj same
      decide
  have value : digits? 10 (l.whole ++ l.fraction.getD []) = some l.decimal.1 :=
    digits?_eq (digits_of_proper proper)
  unfold unsigned?
  cases same : l.fraction with
  | none =>
    rw [same] at last value
    obtain ⟨whole, rest⟩ := span_digits proper.whole.all fun c head => (ends c head).1
    have point : ((exponentIn [] l.exponent).head? == some '.') = false := by
      rw [beq_eq_false_iff_ne]
      exact fun same => (ends '.' same).2 rfl
    simp only [Option.getD_none, List.length_nil] at value last
    simp only [fractionText, List.nil_append, whole, rest, point, Bool.false_eq_true, if_false,
      value, last]
    simp [finite]
  | some ds =>
    rw [same] at last value
    have digits := proper.fraction ds same
    have point : ∀ c, (fractionText (some ds) ++ exponentIn [] l.exponent).head? = some c →
        Json.isDigit c = false := by
      intro c head
      obtain rfl : '.' = c := Option.some.inj head
      decide
    obtain ⟨whole, rest⟩ := span_digits proper.whole.all point
    obtain ⟨fraction, behind⟩ := span_digits digits.all fun c head => (ends c head).1
    simp only [whole, rest]
    simp only [fractionText, List.cons_append, List.head?_cons, beq_self_eq_true, if_true,
      List.drop_succ_cons, List.drop_zero, fraction, behind]
    simp only [Option.getD_some] at value last
    simp [value, last, finite]

/-- A word of points is no text that begins otherwise. -/
theorem not_word {words : List String} (points : ∀ w ∈ words, w.toList.head? = some '.')
    {text : String} (other : text.toList.head? ≠ some '.') : words.contains text = false := by
  rw [List.contains_eq_mem, decide_eq_false_iff_not]
  exact fun member => other (points text member)

theorem not_infinity {cs : List Char} (other : cs.head? ≠ some '.') : isInfinity cs = false := by
  refine not_word (by decide) ?_
  rwa [String.toList_ofList]

/-- A finite double is read from its text. -/
theorem number?_write {d : Double} (finite : d.isFinite = true) :
    number? (writeNumber d) = some d := by
  obtain ⟨l, ⟨proper, -⟩, written, sign, zero, value⟩ := Json.write_textIn doubleStyle finite
  have back := Double.ofDecimal_of_literal finite zero value
  have read := unsigned?_text proper d.isNegative (by rwa [back])
  have shown : writeNumber d = d.write doubleStyle := by
    simp [writeNumber, Double.isNaN, Double.isInfinite, finite]
  have other : ∀ {c : Char} {rest}, Json.isDigit c = false →
      l.whole ++ (fractionText l.fraction ++ exponentIn [] l.exponent) ≠ c :: rest :=
    fun differs => append_ne_cons proper.whole differs
  have text : (writeNumber d).toList = (if d.isNegative then ['-'] else []) ++
      (l.whole ++ (fractionText l.fraction ++ exponentIn [] l.exponent)) := by
    rw [shown, ← sign]
    exact written
  rw [back] at read
  generalize l.whole ++ (fractionText l.fraction ++ exponentIn [] l.exponent) = cs at *
  have apart : cs.head? ≠ some '.' := by
    intro same
    obtain ⟨rest, begins⟩ := List.head?_eq_some_iff.mp same
    exact other (by decide) begins
  have noWord : [".nan", ".NaN", ".NAN"].contains (writeNumber d) = false := by
    refine not_word (by decide) ?_
    rw [text]
    split
    · exact nofun
    · exact apart
  rw [number?, noWord, if_neg Bool.false_ne_true, text]
  cases negative : d.isNegative with
  | true =>
    rw [negative] at read
    change (if isInfinity cs = true then _ else unsigned? true cs) = some d
    rw [not_infinity apart, if_neg Bool.false_ne_true, read]
  | false =>
    rw [negative] at read
    rw [if_neg Bool.false_ne_true, List.nil_append]
    split
    · exact absurd rfl (other (by decide))
    · exact absurd rfl (other (by decide))
    · rw [not_infinity apart, if_neg Bool.false_ne_true, read]

end Scalar

/-- A text that may stand for something else is no plain scalar. -/
theorem Text.not_mistakable {text : String} (plain : Text.style text = .plain) :
    Text.isMistakable text = false := by
  unfold Text.style at plain
  simp only at plain
  split at plain
  · split at plain <;> cases plain
  · split at plain
    · rename_i fits
      simp only [Bool.and_eq_true, Bool.not_eq_true'] at fits
      exact fits.2
    · split at plain <;> cases plain

theorem Node.ofItems_eq (items : List Document) :
    Node.ofItems items = items.map Node.ofDocument := by
  induction items with
  | nil => rfl
  | cons d rest ih => rw [Node.ofItems, ih, List.map_cons]

theorem Node.ofMembers_eq (members : List (String × Document)) : Node.ofMembers members =
    members.map fun (key, d) => (Node.ofText key, Node.ofDocument d) := by
  induction members with
  | nil => rfl
  | cons m rest ih => rw [Node.ofMembers, ih, List.map_cons]

namespace View

/-- Documents that are kept as nodes, among which there may be anchored ones. -/
def rendering (anchored : List (Nat × Node)) (limit : Nat) : Rendering View where
  source := source
  render d := ⟨anchored, limit, Node.ofDocument d⟩
  follow_eq d := by cases d <;> rfl
  text_eq s := rfl
  flag_eq b := by cases b <;> rfl
  integer_eq _ _ := Scalar.integer?_toString _
  natural_eq _ := Scalar.natural?_toString _
  unset_null := rfl
  unset_text s := by
    change unset? ⟨anchored, limit, .scalar none none (Text.style s) s⟩ = some false
    cases style : Text.style s with
    | plain =>
      have kept := Text.not_mistakable style
      simp only [Text.isMistakable, Bool.or_eq_false_iff] at kept
      obtain ⟨⟨⟨⟨⟨filled, other⟩, -⟩, -⟩, -⟩, -⟩ := kept
      simp [unset?, filled, other]
    | _ => rfl
  unset_record _ := rfl
  items_eq items := by
    rw [Node.ofDocument, Node.ofItems_eq]
    simp [source, items?, withNode]
  members_eq members := by
    rw [Node.ofDocument, Node.ofMembers_eq]
    simp [source, members?, withNode, Node.ofDocument]
  positions_eq _ := rfl

/-- A finite number stays what it is. -/
theorem number?_rendering {anchored : List (Nat × Node)} {limit : Nat} {d : Double}
    (finite : d.isFinite = true) : (rendering anchored limit).number? d = some d :=
  Scalar.number?_write finite

end View

end Yaml
end ClusterConf
