import ClusterConf.Proofs.JsonTokens
import ClusterConf.Proofs.Roundings
set_option autoImplicit false

/-!
Compact JSON texts. Main statements: finite doubles are known by their texts, and documents that
hold no other numbers are known by their compact texts, whatever follows these.
-/
namespace ClusterConf

open Json

namespace Double

theorem parts_of_isZero {d : Double} (zero : d.isZero = true) :
    d.significand = 0 ∧ d.exponent = -1074 := by
  have none : d.significand = 0 := by
    simp only [isZero, Bool.and_eq_true, beq_iff_eq] at zero
    exact zero.2
  have hidden : Nat.pow 2 52 = 2 ^ 52 := rfl
  have least : d.exponentField = 0 := by
    rw [significand, hidden] at none
    split at none <;> omega
  exact ⟨none, if_pos least⟩

/-- Finite doubles are known by their texts. -/
theorem write_inj {d e : Double} (finite : d.isFinite = true) (finite' : e.isFinite = true)
    (same : d.write doubleStyle = e.write doubleStyle) : d = e := by
  obtain ⟨l, fractional, written, sign, zero, value⟩ := write_text finite
  obtain ⟨l', fractional', written', sign', zero', value'⟩ := write_text finite'
  have literals : l = l' := by
    have scanned := Literal.scanNumber_text fractional.proper ends_nil
    have scanned' := Literal.scanNumber_text fractional'.proper ends_nil
    rw [← written, same, written', scanned'] at scanned
    simpa using scanned.symm
  subst literals
  have signs : d.isNegative = e.isNegative := sign.symm.trans sign'
  have some : ∀ {f : Double}, f.isFinite = true → f.isZero = false →
      SameValue l.decimal f.shortestDecimal → f.roundingInterval.Holds l.decimal :=
    fun finite nonzero value => (holds_congr value).mpr (holds_shortestDecimal finite nonzero)
  have unit : 0 < 10 ^ (-l.decimal.2).toNat := Nat.pow_pos (by decide)
  have digits : ∀ {f : Double}, f.isFinite = true → f.isZero = false →
      SameValue l.decimal f.shortestDecimal → l.decimal.1 ≠ 0 := by
    intro f finite nonzero value none
    have inside := some finite nonzero value
    have positive := contains_pos (low_pos finite nonzero) unit inside
    rw [none, Nat.zero_mul] at positive
    omega
  cases nonzero : d.isZero <;> cases nonzero' : e.isZero
  · exact eq_of_overlap unit signs (some finite nonzero (value nonzero))
      (some finite' nonzero' (value' nonzero'))
  · exact absurd (zero' nonzero') (digits finite nonzero (value nonzero))
  · exact absurd (zero nonzero) (digits finite' nonzero' (value' nonzero'))
  · obtain ⟨significand, exponent⟩ := parts_of_isZero nonzero
    obtain ⟨significand', exponent'⟩ := parts_of_isZero nonzero'
    exact ext_parts signs (significand.trans significand'.symm) (exponent.trans exponent'.symm)

end Double

/-- A document without numbers that have no text of their own. -/
inductive Document.Legible : Document → Prop
  | null : Legible .null
  | flag (b : Bool) : Legible (.flag b)
  | integer (i : Int) : Legible (.integer i)
  | number {d : Double} (finite : d.isFinite = true) : Legible (.number d)
  | text (s : String) : Legible (.text s)
  | list {items : List Document} (each : ∀ d ∈ items, Legible d) : Legible (.list items)
  | record {members : List (String × Document)} (each : ∀ m ∈ members, Legible m.2) :
    Legible (.record members)

namespace Json

open Document (Legible)

mutual

/-- What is written behind a text is the document by itself. -/
theorem compactOnto_eq (out : String) (d : Document) : compactOnto out d = out ++ compact d := by
  match d with
  | .null | .flag _ | .integer _ | .number _ | .text _ | .unreadable =>
    simp [compact, compactOnto]
  | .list items =>
    rw [compact, compactOnto, compactOnto, compactItems_eq (out ++ "["),
      compactItems_eq ("" ++ "[")]
    simp [String.append_assoc]
  | .record members =>
    rw [compact, compactOnto, compactOnto, compactMembers_eq (out ++ "\x7b"),
      compactMembers_eq ("" ++ "\x7b")]
    simp [String.append_assoc]

theorem compactItems_eq (out : String) (first : Bool) (items : List Document) :
    compactItems out first items = out ++ compactItems "" first items := by
  match items with
  | [] => simp [compactItems]
  | d :: rest =>
    rw [compactItems, compactItems, compactItems_eq (compactOnto _ d),
      compactItems_eq (compactOnto (if first then "" else "" ++ ",") d), compactOnto_eq,
      compactOnto_eq (if first then "" else "" ++ ",")]
    cases first <;> simp [String.append_assoc]

theorem compactMembers_eq (out : String) (first : Bool) (members : List (String × Document)) :
    compactMembers out first members = out ++ compactMembers "" first members := by
  match members with
  | [] => simp [compactMembers]
  | (name, d) :: rest =>
    rw [compactMembers, compactMembers]
    rw [compactMembers_eq (compactOnto _ d), compactMembers_eq (compactOnto (_ ++ ":") d),
      compactOnto_eq, compactOnto_eq (_ ++ ":")]
    cases first <;> simp [String.append_assoc]

end

def chars (d : Document) : List Char := (compact d).toList

def itemChars (first : Bool) (items : List Document) : List Char :=
  (compactItems "" first items).toList

def memberChars (first : Bool) (members : List (String × Document)) : List Char :=
  (compactMembers "" first members).toList

theorem chars_list (items : List Document) :
    chars (.list items) = '[' :: (itemChars true items ++ [']']) := by
  rw [chars, compact, compactOnto, compactItems_eq, itemChars]
  simp

theorem chars_record (members : List (String × Document)) :
    chars (.record members) = '\x7b' :: (memberChars true members ++ ['\x7d']) := by
  rw [chars, compact, compactOnto, compactMembers_eq, memberChars]
  simp

@[simp] theorem itemChars_nil (first : Bool) : itemChars first [] = [] := rfl

@[simp] theorem memberChars_nil (first : Bool) : memberChars first [] = [] := rfl

theorem itemChars_cons (first : Bool) (d : Document) (rest : List Document) :
    itemChars first (d :: rest) =
      (if first then [] else [',']) ++ (chars d ++ itemChars false rest) := by
  rw [itemChars, compactItems, compactItems_eq, compactOnto_eq]
  cases first <;> simp [chars, itemChars]

theorem memberChars_cons (first : Bool) (name : String) (d : Document)
    (rest : List (String × Document)) : memberChars first ((name, d) :: rest) =
      (if first then [] else [',']) ++
        ((quote name).toList ++ (':' :: (chars d ++ memberChars false rest))) := by
  rw [memberChars, compactMembers, compactMembers_eq, compactOnto_eq]
  cases first <;> simp [chars, memberChars]

/-- What a first character tells of a value. Of what begins no value it tells that. -/
inductive Opening where
  | null
  | yes
  | no
  | text
  | list
  | record
  | numeral
  | none
  deriving DecidableEq

def openingOf (c : Char) : Opening :=
  if c = 'n' then .null
  else if c = 't' then .yes
  else if c = 'f' then .no
  else if c = '"' then .text
  else if c = '[' then .list
  else if c = '\x7b' then .record
  else if c = '-' || isDigit c then .numeral
  else .none

/-- What the first character of a document tells of it. -/
def Opening.ofDocument : Document → Opening
  | .null | .unreadable => .null
  | .flag b => if b then .yes else .no
  | .integer _ | .number _ => .numeral
  | .text _ => .text
  | .list _ => .list
  | .record _ => .record

theorem openingOf_numeral {c : Char} (first : c = '-' ∨ isDigit c = true) :
    openingOf c = .numeral := by
  have other : ∀ d : Char, d ≠ '-' → isDigit d = false → c ≠ d := by
    rintro d minus digit rfl
    rcases first with rfl | same
    · exact minus rfl
    · rw [digit] at same
      cases same
  unfold openingOf
  rw [if_neg (other _ (by decide) (by decide)), if_neg (other _ (by decide) (by decide)),
    if_neg (other _ (by decide) (by decide)), if_neg (other _ (by decide) (by decide)),
    if_neg (other _ (by decide) (by decide)), if_neg (other _ (by decide) (by decide)), if_pos]
  simpa using first

/-- A literal is known by its text, and where that ends. -/
theorem literal_split {l l' : Literal} (proper : l.Proper) (proper' : l'.Proper)
    {rest rest' : List Char} (ends : Ends rest) (ends' : Ends rest')
    (same : l.text ++ rest = l'.text ++ rest') : l = l' ∧ rest = rest' := by
  have scanned := Literal.scanNumber_text proper ends
  rw [same, Literal.scanNumber_text proper' ends'] at scanned
  obtain ⟨rfl, rfl⟩ := Prod.mk.inj (Option.some.inj scanned)
  exact ⟨rfl, rfl⟩

/-- A quoted text is known by what is written, and where that ends. -/
theorem quote_split {s t : String} {rest rest' : List Char}
    (same : (quote s).toList ++ rest = (quote t).toList ++ rest') : s = t ∧ rest = rest' := by
  have scanned : ∀ (u : String) (behind : List Char), scanString
      (u.toList.flatMap (fun c => (escapeChar c).toList) ++ '"' :: behind) ⟨"", none, true⟩ =
        some (some u, behind) := by
    intro u behind
    rw [scanString_quote]
    simp
  rw [toList_quote, toList_quote] at same
  simp only [List.cons_append, List.append_assoc, List.nil_append, List.cons.injEq,
    true_and] at same
  have first := scanned s rest
  rw [same, scanned t rest'] at first
  simp only [Option.some.injEq, Prod.mk.injEq] at first
  exact ⟨first.1.symm, first.2.symm⟩

theorem ofInt_inj {i j : Int} (same : Literal.ofInt i = Literal.ofInt j) : i = j := by
  have sign : decide (i < 0) = decide (j < 0) := congrArg Literal.negative same
  have digits : Nat.toDigits 10 i.natAbs = Nat.toDigits 10 j.natAbs := congrArg Literal.whole same
  have size : i.natAbs = j.natAbs := by
    rw [← Literal.digitsValue_toDigits i.natAbs, digits, Literal.digitsValue_toDigits]
  rw [decide_eq_decide] at sign
  omega

theorem chars_integer (i : Int) : chars (.integer i) = (Literal.ofInt i).text := by
  rw [← Literal.toList_toString_int, chars, compact, compactOnto]
  · simp [writeScalar]
  all_goals nofun

theorem chars_number {d : Double} (finite : d.isFinite = true) :
    chars (.number d) = (d.write doubleStyle).toList := by
  rw [chars, compact, compactOnto]
  · simp [writeScalar, writeDouble, finite]
  all_goals nofun

theorem exists_literal {d : Document} (legible : Legible d)
    (numeral : Opening.ofDocument d = .numeral) : ∃ l : Literal, l.Proper ∧ chars d = l.text := by
  cases legible with
  | integer i => exact ⟨_, Literal.proper_ofInt i, chars_integer i⟩
  | number finite =>
    obtain ⟨l, fractional, written, -⟩ := write_text finite
    exact ⟨l, fractional.proper, (chars_number finite).trans written⟩
  | flag b => cases b <;> cases numeral
  | null | text | list | record => cases numeral

/-- Legible numbers are known by their texts; a whole number has no point and no exponent. -/
theorem numeral_inj {d e : Document} (legible : Legible d) (legible' : Legible e)
    (numeral : Opening.ofDocument d = .numeral) (numeral' : Opening.ofDocument e = .numeral)
    (same : chars d = chars e) : d = e := by
  have split : ∀ {l l' : Literal}, l.Proper → l'.Proper → l.text = l'.text → l = l' :=
    fun proper proper' same => (literal_split proper proper' ends_nil ends_nil (by simpa)).1
  have whole : ∀ (i : Int) {x : Double}, x.isFinite = true →
      chars (.integer i) ≠ chars (.number x) := by
    intro i x finite same
    obtain ⟨l, fractional, written, -⟩ := write_text finite
    rw [chars_integer, chars_number finite, written] at same
    obtain rfl := split (Literal.proper_ofInt i) fractional.proper same
    cases fractional.broken
  cases legible with
  | integer i =>
    cases legible' with
    | integer j =>
      rw [chars_integer, chars_integer] at same
      rw [ofInt_inj (split (Literal.proper_ofInt i) (Literal.proper_ofInt j) same)]
    | number finite => exact absurd same (whole i finite)
    | flag b => cases b <;> cases numeral'
    | null | text | list | record => cases numeral'
  | number finite =>
    cases legible' with
    | integer j => exact absurd same.symm (whole j finite)
    | number finite' =>
      rw [chars_number finite, chars_number finite'] at same
      rw [Double.write_inj finite finite' (String.toList_inj.mp same)]
    | flag b => cases b <;> cases numeral'
    | null | text | list | record => cases numeral'
  | flag b => cases b <;> cases numeral
  | null | text | list | record => cases numeral

theorem exists_opening {d : Document} (legible : Legible d) :
    ∃ c rest, chars d = c :: rest ∧ openingOf c = .ofDocument d := by
  have numeral : Opening.ofDocument d = .numeral → ∃ c rest, chars d = c :: rest ∧
      openingOf c = .ofDocument d := by
    intro numeral
    obtain ⟨l, proper, written⟩ := exists_literal legible numeral
    obtain ⟨c, rest, begins, first⟩ := proper.exists_head
    exact ⟨c, rest, written.trans begins, (openingOf_numeral first).trans numeral.symm⟩
  cases legible with
  | null => exact ⟨'n', _, rfl, rfl⟩
  | flag b => cases b <;> exact ⟨_, _, rfl, rfl⟩
  | integer i => exact numeral rfl
  | number finite => exact numeral rfl
  | text s => exact ⟨'"', _, toList_quote s, rfl⟩
  | list each => exact ⟨'[', _, chars_list _, rfl⟩
  | record each => exact ⟨'\x7b', _, chars_record _, rfl⟩

/-- A document is known by its characters, and where they end. -/
def Splits (d : Document) : Prop :=
  ∀ {e : Document} {rest rest' : List Char}, Legible e → Ends rest → Ends rest' →
    chars d ++ rest = chars e ++ rest' → d = e ∧ rest = rest'

/-- What begins no value begins no legible document. -/
theorem chars_ne {d : Document} (legible : Legible d) {c : Char} (other : openingOf c = .none)
    (rest rest' : List Char) : chars d ++ rest ≠ c :: rest' := by
  intro same
  obtain ⟨c', more, written, opening⟩ := exists_opening legible
  rw [written, List.cons_append, List.cons.injEq] at same
  obtain ⟨rfl, -⟩ := same
  rw [other] at opening
  cases legible with
  | flag b => cases b <;> cases opening
  | null | integer | number | text | list | record => cases opening

theorem ends_items (items : List Document) (rest : List Char) :
    Ends (itemChars false items ++ ']' :: rest) := by
  cases items with
  | nil => exact ends_cons symbol_closeList.other
  | cons d items =>
    rw [itemChars_cons]
    exact ends_cons symbol_comma.other

theorem ends_members (members : List (String × Document)) (rest : List Char) :
    Ends (memberChars false members ++ '\x7d' :: rest) := by
  cases members with
  | nil => exact ends_cons symbol_closeRecord.other
  | cons m members =>
    rw [memberChars_cons]
    exact ends_cons symbol_comma.other

theorem itemChars_cons_ne (first : Bool) {d : Document} (legible : Legible d)
    (items : List Document) (rest rest' : List Char) :
    itemChars first (d :: items) ++ rest ≠ ']' :: rest' := by
  rw [itemChars_cons]
  cases first with
  | true =>
    simp only [if_true, List.nil_append, List.append_assoc]
    exact chars_ne legible rfl _ _
  | false => simp

theorem memberChars_cons_ne (first : Bool) (m : String × Document)
    (members : List (String × Document)) (rest rest' : List Char) :
    memberChars first (m :: members) ++ rest ≠ '\x7d' :: rest' := by
  rw [memberChars_cons, toList_quote]
  cases first <;> simp

/-- The items of a list are known by their characters, and where they end. -/
theorem items_split {items : List Document} (each : ∀ d ∈ items, Splits d)
    (legible : ∀ d ∈ items, Legible d) {items' : List Document}
    (legible' : ∀ d ∈ items', Legible d) {first : Bool} {rest rest' : List Char}
    (same : itemChars first items ++ ']' :: rest = itemChars first items' ++ ']' :: rest') :
    items = items' ∧ rest = rest' := by
  induction items generalizing items' first with
  | nil =>
    cases items' with
    | nil => simpa using same
    | cons e items' =>
      exact absurd same.symm (itemChars_cons_ne first (legible' e List.mem_cons_self) _ _ _)
  | cons d items ih =>
    cases items' with
    | nil => exact absurd same (itemChars_cons_ne first (legible d List.mem_cons_self) _ _ _)
    | cons e items' =>
      rw [itemChars_cons, itemChars_cons] at same
      simp only [List.append_assoc, List.append_cancel_left_eq] at same
      obtain ⟨rfl, onward⟩ := each d List.mem_cons_self (legible' e List.mem_cons_self)
        (ends_items items rest) (ends_items items' rest') same
      obtain ⟨rfl, rfl⟩ := ih (fun x member => each x (List.mem_cons_of_mem d member))
        (fun x member => legible x (List.mem_cons_of_mem d member))
        (fun x member => legible' x (List.mem_cons_of_mem d member)) onward
      exact ⟨rfl, rfl⟩

theorem members_split {members : List (String × Document)} (each : ∀ m ∈ members, Splits m.2)
    {members' : List (String × Document)} (legible' : ∀ m ∈ members', Legible m.2) {first : Bool}
    {rest rest' : List Char}
    (same : memberChars first members ++ '\x7d' :: rest =
      memberChars first members' ++ '\x7d' :: rest') : members = members' ∧ rest = rest' := by
  induction members generalizing members' first with
  | nil =>
    cases members' with
    | nil => simpa using same
    | cons m members' => exact absurd same.symm (memberChars_cons_ne first m _ _ _)
  | cons m members ih =>
    cases members' with
    | nil => exact absurd same (memberChars_cons_ne first m _ _ _)
    | cons m' members' =>
      obtain ⟨name, d⟩ := m
      obtain ⟨name', e⟩ := m'
      rw [memberChars_cons, memberChars_cons] at same
      simp only [List.append_assoc, List.append_cancel_left_eq, List.cons_append] at same
      obtain ⟨rfl, valued⟩ := quote_split same
      rw [List.cons.injEq] at valued
      obtain ⟨rfl, onward⟩ := each _ List.mem_cons_self (legible' _ List.mem_cons_self)
        (ends_members members rest) (ends_members members' rest') valued.2
      obtain ⟨rfl, rfl⟩ := ih (fun x member => each x (List.mem_cons_of_mem _ member))
        (fun x member => legible' x (List.mem_cons_of_mem _ member)) onward
      exact ⟨rfl, rfl⟩

/-- Documents of different openings differ in their first characters. -/
theorem opening_eq {d e : Document} (legible : Legible d) (legible' : Legible e)
    {rest rest' : List Char} (same : chars d ++ rest = chars e ++ rest') :
    Opening.ofDocument d = .ofDocument e := by
  obtain ⟨c, more, written, opening⟩ := exists_opening legible
  obtain ⟨c', more', written', opening'⟩ := exists_opening legible'
  rw [written, written', List.cons_append, List.cons_append, List.cons.injEq] at same
  rw [← opening, ← opening', same.1]

theorem numeral_splits {d : Document} (legible : Legible d)
    (numeral : Opening.ofDocument d = .numeral) : Splits d := by
  intro e rest rest' legible' ends ends' same
  have numeral' := (opening_eq legible legible' same).symm.trans numeral
  obtain ⟨l, proper, written⟩ := exists_literal legible numeral
  obtain ⟨l', proper', written'⟩ := exists_literal legible' numeral'
  rw [written, written'] at same
  obtain ⟨rfl, rest⟩ := literal_split proper proper' ends ends' same
  exact ⟨numeral_inj legible legible' numeral numeral' (written.trans written'.symm), rest⟩

/-- Every legible document is known by its characters, and where they end. -/
theorem splits {d : Document} (legible : Legible d) : Splits d := by
  induction legible with
  | integer i => exact numeral_splits (.integer i) rfl
  | number finite => exact numeral_splits (.number finite) rfl
  | null =>
    intro e rest rest' legible' _ _ same
    have opening := opening_eq .null legible' same
    cases legible' with
    | null => exact ⟨rfl, List.append_cancel_left same⟩
    | flag b => cases b <;> cases opening
    | integer | number | text | list | record => cases opening
  | flag b =>
    intro e rest rest' legible' _ _ same
    have opening := opening_eq (.flag b) legible' same
    cases legible' with
    | flag b' =>
      have flags : b = b' := by cases b <;> cases b' <;> first | rfl | cases opening
      subst flags
      exact ⟨rfl, List.append_cancel_left same⟩
    | null | integer | number | text | list | record => cases b <;> cases opening
  | text s =>
    intro e rest rest' legible' _ _ same
    have opening := opening_eq (.text s) legible' same
    cases legible' with
    | text t =>
      have quoted : ∀ u : String, chars (.text u) = (quote u).toList := by
        intro u
        rw [chars, compact, compactOnto]
        · simp [writeScalar]
        all_goals nofun
      rw [quoted, quoted] at same
      obtain ⟨rfl, rfl⟩ := quote_split same
      exact ⟨rfl, rfl⟩
    | flag b => cases b <;> cases opening
    | null | integer | number | list | record => cases opening
  | list each ih =>
    intro e rest rest' legible' _ _ same
    have opening := opening_eq (.list each) legible' same
    cases legible' with
    | list each' =>
      rw [chars_list, chars_list] at same
      simp only [List.cons_append, List.append_assoc, List.nil_append, List.cons.injEq,
        true_and] at same
      obtain ⟨rfl, rfl⟩ := items_split ih each each' same
      exact ⟨rfl, rfl⟩
    | flag b => cases b <;> cases opening
    | null | integer | number | text | record => cases opening
  | record each ih =>
    intro e rest rest' legible' _ _ same
    have opening := opening_eq (.record each) legible' same
    cases legible' with
    | record each' =>
      rw [chars_record, chars_record] at same
      simp only [List.cons_append, List.append_assoc, List.nil_append, List.cons.injEq,
        true_and] at same
      obtain ⟨rfl, rfl⟩ := members_split ih each' same
      exact ⟨rfl, rfl⟩
    | flag b => cases b <;> cases opening
    | null | integer | number | text | list => cases opening

/-- Legible documents are known by their compact texts. -/
theorem compact_inj {d e : Document} (legible : Legible d) (legible' : Legible e)
    (same : compact d = compact e) : d = e := by
  have whole : chars d ++ [] = chars e ++ [] := by rw [chars, chars, same]
  exact (splits legible legible' ends_nil ends_nil whole).1

end Json
end ClusterConf
