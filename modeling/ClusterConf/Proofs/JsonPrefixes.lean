import ClusterConf.Proofs.JsonReading
import Mathlib.Data.List.TakeWhile
set_option autoImplicit false

/-!
Beginnings of JSON texts. Main statement: a text that begins with a brace and is read as a value is
no beginning of a longer one, so nothing is read when the end of such a text is cut off.
-/
namespace ClusterConf.Json

section Numbers

variable {cs rest : List Char} (back : List Char)

theorem spanDigits_back {digits : List Char} (scanned : spanDigits cs = (digits, rest))
    (more : rest ≠ []) : spanDigits (cs ++ back) = (digits, rest ++ back) := by
  rw [spanDigits, List.span_eq_takeWhile_dropWhile] at scanned ⊢
  obtain ⟨rfl, rfl⟩ := Prod.mk.inj scanned
  have whole : (cs.takeWhile isDigit).length + (cs.dropWhile isDigit).length = cs.length := by
    rw [← List.length_append, List.takeWhile_append_dropWhile]
  have some := List.length_pos_iff.mpr more
  have short : (cs.takeWhile isDigit).length ≠ cs.length := by omega
  simp [List.takeWhile_append, List.dropWhile_append, more, short]

def exponentDigits (s : Bool × List Char) : Option (Option (Bool × List Char) × List Char) :=
  let (digits, rest) := spanDigits s.2
  if digits.isEmpty then none else some (some (s.1, digits), rest)

def exponentSign (cs : List Char) : Bool × List Char :=
  match cs with
  | '-' :: cs => (true, cs)
  | '+' :: cs => (false, cs)
  | _ => (false, cs)

theorem scanExponent_cons (c : Char) (cs : List Char) : scanExponent (c :: cs) =
    if c == 'e' || c == 'E' then exponentDigits (exponentSign cs) else some (none, c :: cs) := rfl

theorem exponentSign_append (some : cs ≠ []) :
    exponentSign (cs ++ back) = ((exponentSign cs).1, (exponentSign cs).2 ++ back) := by
  obtain ⟨c, cs, rfl⟩ := List.exists_cons_of_ne_nil some
  rw [List.cons_append]
  unfold exponentSign
  split <;> split <;> simp_all

theorem exponentDigits_back {s : Bool × List Char} {e : Option (Bool × List Char)}
    (scanned : exponentDigits s = some (e, rest)) (more : rest ≠ []) :
    exponentDigits (s.1, s.2 ++ back) = some (e, rest ++ back) := by
  unfold exponentDigits at scanned ⊢
  generalize spanned : spanDigits s.2 = found at scanned
  dsimp only at scanned ⊢
  split at scanned
  · cases scanned
  · rename_i filled
    obtain ⟨rfl, rfl⟩ := Prod.mk.inj (Option.some.inj scanned)
    rw [spanDigits_back back spanned more]
    exact if_neg filled

theorem scanExponent_back {e : Option (Bool × List Char)}
    (scanned : scanExponent cs = some (e, rest)) (more : rest ≠ []) :
    scanExponent (cs ++ back) = some (e, rest ++ back) := by
  cases cs with
  | nil =>
    obtain ⟨-, rfl⟩ := Prod.mk.inj (Option.some.inj scanned)
    exact absurd rfl more
  | cons c cs =>
    rw [scanExponent_cons] at scanned
    rw [List.cons_append, scanExponent_cons]
    split at scanned
    · have filled : cs ≠ [] := by
        rintro rfl
        cases scanned
      rw [if_pos ‹_›, exponentSign_append back filled]
      exact exponentDigits_back back scanned more
    · obtain ⟨rfl, rfl⟩ := Prod.mk.inj (Option.some.inj scanned)
      rw [if_neg ‹_›]
      rfl

/-- What is scanned of a number behind its whole part. -/
def scanParts (negative : Bool) (whole cs : List Char) : Option (Literal × List Char) :=
  match cs with
  | '.' :: rest =>
    let (fraction, rest) := spanDigits rest
    if fraction.isEmpty then none
    else do
      let (exponent, rest) ← scanExponent rest
      return (⟨negative, whole, some fraction, exponent⟩, rest)
  | _ => do
    let (exponent, rest) ← scanExponent cs
    return (⟨negative, whole, none, exponent⟩, rest)

theorem scanUnsigned_eq (negative : Bool) (cs : List Char) : Literal.scanUnsigned negative cs =
    let (whole, rest) := spanDigits cs
    if whole.isEmpty || (whole.head? == some '0' && whole.length > 1) then none
    else scanParts negative whole rest := rfl

theorem scanParts_back {l : Literal} {negative : Bool} {whole : List Char}
    (scanned : scanParts negative whole cs = some (l, rest)) (more : rest ≠ []) :
    scanParts negative whole (cs ++ back) = some (l, rest ++ back) ∧ cs ≠ [] := by
  have exponent : ∀ {body : List Char} {f : Option (Bool × List Char) → Literal},
      (scanExponent body >>= fun x => pure (f x.1, x.2)) = some (l, rest) →
      (scanExponent (body ++ back) >>= fun x => pure (f x.1, x.2)) = some (l, rest ++ back) ∧
        body ≠ [] := by
    intro body f found
    obtain ⟨⟨e, after⟩, first, last⟩ := Option.bind_eq_some_iff.mp found
    obtain ⟨rfl, rfl⟩ := Prod.mk.inj (Option.some.inj last)
    rw [scanExponent_back back first more]
    refine ⟨rfl, ?_⟩
    rintro rfl
    obtain ⟨-, rfl⟩ := Prod.mk.inj (Option.some.inj first)
    exact more rfl
  unfold scanParts at scanned
  split at scanned
  · rename_i after
    generalize spanned : spanDigits after = found at scanned
    obtain ⟨fraction, behind⟩ := found
    dsimp only at scanned
    split at scanned
    · cases scanned
    · rename_i filled
      obtain ⟨read, on⟩ := exponent scanned
      refine ⟨?_, List.cons_ne_nil _ _⟩
      rw [List.cons_append, scanParts, spanDigits_back back spanned on]
      exact (if_neg filled).trans read
  · rename_i plain
    obtain ⟨read, some⟩ := exponent scanned
    refine ⟨?_, some⟩
    obtain ⟨c, cs, rfl⟩ := List.exists_cons_of_ne_nil some
    rw [scanParts]
    · exact read
    · intro after same
      exact plain cs (by rw [(List.cons.inj same).1])

theorem scanUnsigned_back {l : Literal} {negative : Bool}
    (scanned : Literal.scanUnsigned negative cs = some (l, rest)) (more : rest ≠ []) :
    Literal.scanUnsigned negative (cs ++ back) = some (l, rest ++ back) := by
  rw [scanUnsigned_eq] at scanned ⊢
  generalize spanned : spanDigits cs = found at scanned
  obtain ⟨whole, after⟩ := found
  dsimp only at scanned
  split at scanned
  · cases scanned
  · rename_i led
    obtain ⟨read, some⟩ := scanParts_back back scanned more
    rw [spanDigits_back back spanned some]
    exact (if_neg led).trans read

theorem head_of_scanNumber {l : Literal} (scanned : scanNumber cs = some (l, rest)) :
    ∃ c more, cs = c :: more ∧ (c = '-' ∨ isDigit c = true) := by
  cases cs with
  | nil => cases scanned
  | cons c more =>
    refine ⟨c, more, rfl, ?_⟩
    by_contra other
    obtain ⟨minus, digit⟩ := not_or.mp other
    have none : scanNumber (c :: more) = none := by
      have spanned : spanDigits (c :: more) = ([], c :: more) := by
        rw [spanDigits, List.span_eq_takeWhile_dropWhile]
        simp [digit]
      unfold scanNumber
      split
      rename_i negative body signed
      split at signed
      · rename_i same
        exact absurd (List.cons.inj same).1 minus
      · obtain ⟨rfl, rfl⟩ := Prod.mk.inj signed
        rw [spanned]
        rfl
    rw [none] at scanned
    cases scanned

theorem scanNumber_back {l : Literal} (scanned : scanNumber cs = some (l, rest))
    (more : rest ≠ []) : scanNumber (cs ++ back) = some (l, rest ++ back) := by
  obtain ⟨c, cs, rfl, rfl | digit⟩ := head_of_scanNumber scanned
  · rw [Literal.scanNumber_minus] at scanned
    rw [List.cons_append, Literal.scanNumber_minus]
    exact scanUnsigned_back back scanned more
  · rw [Literal.scanNumber_digit digit] at scanned
    rw [List.cons_append, Literal.scanNumber_digit digit]
    exact scanUnsigned_back back scanned more

end Numbers

section Tokens

variable {cs rest : List Char} (back : List Char)

/-- The characters of a string are scanned up to its closing quote. -/
theorem scanString_back {s : Option String} {scan : StringScan}
    (scanned : scanString cs scan = some (s, rest)) :
    scanString (cs ++ back) scan = some (s, rest ++ back) := by
  fun_induction scanString cs scan with
  | case1 => cases scanned
  | case2 rest' scan s' =>
    obtain ⟨rfl, rfl⟩ := Prod.mk.inj (Option.some.inj scanned)
    rfl
  | case3 scan a b c d cs u quad ih =>
    simp only [List.cons_append, scanString, quad]
    exact ih scanned
  | case4 => cases scanned
  | case5 e cs scan other c escape ih =>
    have short : e ≠ 'u' := by
      rintro rfl
      cases escape
    rw [List.cons_append, List.cons_append, scanString, escape]
    · exact ih scanned
    · exact fun _ _ _ _ _ same => absurd same short
  | case6 => cases scanned
  | case7 => cases scanned
  | case8 c cs scan quote hex short plain ih =>
    obtain ⟨printed, backslash⟩ : ¬ c < ' ' ∧ c ≠ '\\' := by simpa using plain
    rw [List.cons_append, scanString_plain quote backslash printed]
    exact ih scanned

/-- A token is scanned as before when the text goes on; a number, if something was behind it. -/
theorem scanToken_back {t : Token} (scanned : scanToken cs = some (t, rest))
    (closed : (∀ d, t ≠ .scalar d) ∨ rest ≠ []) :
    scanToken (cs ++ back) = some (t, rest ++ back) := by
  unfold scanToken at scanned
  split at scanned
  case h_7 cs' =>
    obtain ⟨⟨s, after⟩, first, last⟩ := Option.map_eq_some_iff.mp scanned
    obtain ⟨rfl, rfl⟩ := Prod.mk.inj last
    rw [List.cons_append, scanToken, scanString_back back first]
    rfl
  case h_11 =>
    obtain ⟨⟨l, after⟩, first, last⟩ := Option.map_eq_some_iff.mp scanned
    obtain ⟨rfl, rfl⟩ := Prod.mk.inj last
    have more : after ≠ [] := closed.resolve_left fun other => other _ rfl
    obtain ⟨c, cs, rfl, head⟩ := head_of_scanNumber first
    rw [List.cons_append, scanToken_number head, ← List.cons_append,
      scanNumber_back back first more]
    rfl
  all_goals
    obtain ⟨rfl, rfl⟩ := Prod.mk.inj (Option.some.inj scanned)
    rfl

end Tokens

section Texts

variable {fuel : Nat} {cs : List Char} {done us : List Token}

theorem tokens?_blank (blank : cs.dropWhile isBlank = []) :
    tokens? fuel cs done = some done.reverse := by
  cases fuel with
  | zero => rw [tokens?, if_pos (List.all_eq_true.mpr (List.dropWhile_eq_nil_iff.mp blank))]
  | succ fuel => rw [tokens?, blank]

/-- A text that is not blank begins with a token. -/
theorem tokens?_printed (printed : cs.dropWhile isBlank ≠ [])
    (found : tokens? fuel cs done = some us) :
    ∃ n t rest, fuel = n + 1 ∧ scanToken (cs.dropWhile isBlank) = some (t, rest) ∧
      tokens? n rest (t :: done) = some us := by
  cases fuel with
  | zero =>
    rw [tokens?, if_neg fun all => ?_] at found
    · cases found
    · exact printed (List.dropWhile_eq_nil_iff.mpr (List.all_eq_true.mp all))
  | succ n =>
    rw [tokens?] at found
    split at found
    · exact absurd ‹_› printed
    · split at found
      · exact ⟨n, _, _, rfl, ‹_›, found⟩
      · cases found

theorem tokens?_onward (found : tokens? fuel cs done = some us) :
    ∃ vs, us = done.reverse ++ vs ∧ (vs = [] → ∀ c ∈ cs, isBlank c = true) := by
  induction fuel generalizing cs done with
  | zero =>
    by_cases blank : cs.dropWhile isBlank = []
    · rw [tokens?_blank blank] at found
      exact ⟨[], by simpa using found.symm, fun _ => List.dropWhile_eq_nil_iff.mp blank⟩
    · obtain ⟨n, t, rest, impossible, -⟩ := tokens?_printed blank found
      cases impossible
  | succ fuel ih =>
    by_cases blank : cs.dropWhile isBlank = []
    · rw [tokens?_blank blank] at found
      exact ⟨[], by simpa using found.symm, fun _ => List.dropWhile_eq_nil_iff.mp blank⟩
    · obtain ⟨n, t, rest, same, -, later⟩ := tokens?_printed blank found
      obtain rfl := Nat.succ.inj same
      obtain ⟨vs, rfl, -⟩ := ih later
      exact ⟨t :: vs, by simp, nofun⟩

/-- The tokens of a text that goes on go on, too, if the text does not end in the midst of a
number. -/
theorem tokens?_back {fuel' : Nat} {back : List Char} {ts : List Token}
    (found : tokens? fuel cs done = some ts) (closed : ∀ d, ts.getLast? ≠ some (.scalar d))
    (whole : tokens? fuel' (cs ++ back) done = some us) :
    ∃ vs, us = ts ++ vs ∧ (vs = [] → ∀ c ∈ back, isBlank c = true) := by
  induction fuel generalizing cs done fuel' with
  | zero =>
    by_cases blank : cs.dropWhile isBlank = []
    · rw [tokens?_blank blank] at found
      obtain rfl := Option.some.inj found
      obtain ⟨vs, rfl, blank⟩ := tokens?_onward whole
      exact ⟨vs, rfl, fun none c member => blank none c (List.mem_append_right cs member)⟩
    · obtain ⟨n, t, rest, impossible, -⟩ := tokens?_printed blank found
      cases impossible
  | succ fuel ih =>
    by_cases blank : cs.dropWhile isBlank = []
    · rw [tokens?_blank blank] at found
      obtain rfl := Option.some.inj found
      obtain ⟨vs, rfl, blank⟩ := tokens?_onward whole
      exact ⟨vs, rfl, fun none c member => blank none c (List.mem_append_right cs member)⟩
    · obtain ⟨n, t, rest, same, scanned, later⟩ := tokens?_printed blank found
      obtain rfl := Nat.succ.inj same
      have joined : (cs ++ back).dropWhile isBlank = cs.dropWhile isBlank ++ back := by
        simp [List.dropWhile_append, blank]
      have on : (∀ d, t ≠ .scalar d) ∨ rest ≠ [] := by
        refine or_iff_not_imp_right.mpr fun ended d scalar => ?_
        rw [not_not.mp ended, tokens?_blank rfl] at later
        refine closed d ?_
        rw [← Option.some.inj later, scalar]
        simp
      obtain ⟨n', t', rest', -, scanned', later'⟩ := tokens?_printed
        (by rw [joined]; exact List.append_ne_nil_of_left_ne_nil blank back) whole
      rw [joined, scanToken_back back scanned on] at scanned'
      obtain ⟨rfl, rfl⟩ := Prod.mk.inj (Option.some.inj scanned')
      exact ih later later'

end Texts

/-- Inside a list or a record, or behind a whole value. -/
def State.Inside (s : State) : Prop := s.stack ≠ [] ∨ s.expected = .nothing

theorem State.inside_give (d : Document) (stack : List Frame) : (State.give d stack).Inside := by
  unfold State.give
  split
  · exact .inr rfl
  all_goals exact .inl (List.cons_ne_nil _ _)

theorem State.Inside.step {s s' : State} {t : Token} (inside : s.Inside)
    (stepped : s.step t = some s') : s'.Inside := by
  unfold State.step at stepped
  split at stepped
  case h_14 wanted =>
    obtain rfl := Option.some.inj stepped
    exact .inl (inside.resolve_right (by simp [wanted]))
  all_goals first
    | (obtain rfl := Option.some.inj stepped; exact inside_give _ _)
    | (obtain rfl := Option.some.inj stepped; exact .inl (List.cons_ne_nil _ _))
    | cases stepped

theorem State.Inside.steps {s s' : State} {ts : List Token} (inside : s.Inside)
    (stepped : s.steps ts = some s') : s'.Inside := by
  induction ts generalizing s with
  | nil => exact Option.some.inj stepped ▸ inside
  | cons t ts ih =>
    obtain ⟨next, first, rest⟩ := Option.bind_eq_some_iff.mp stepped
    exact ih (inside.step first) rest

theorem State.steps_append (s : State) (ts us : List Token) :
    s.steps (ts ++ us) = (s.steps ts).bind (·.steps us) := by
  induction ts generalizing s with
  | nil => rfl
  | cons t ts ih =>
    rw [List.cons_append, State.steps, State.steps]
    cases s.step t with
    | none => rfl
    | some next => exact ih next

/-- No list and no record ends with a value that has no children. -/
theorem State.Inside.not_nothing {s s' : State} {d : Document} (inside : s.Inside)
    (stepped : s.step (.scalar d) = some s') : s'.expected ≠ .nothing := by
  have given : ∀ {stack : List Frame}, stack ≠ [] → (State.give d stack).expected ≠ .nothing := by
    intro stack some
    unfold State.give
    split
    · exact absurd rfl some
    all_goals nofun
  obtain ⟨expected, stack, result⟩ := s
  cases expected with
  | value | valueOrClose =>
    obtain rfl := Option.some.inj stepped
    exact given (inside.resolve_right nofun)
  | _ => cases stepped

theorem document?_iff {ts : List Token} {d : Document} : document? ts = some d ↔
    ∃ s, State.steps ⟨.value, [], .null⟩ ts = some s ∧ s.expected = .nothing ∧ s.result = d := by
  rw [document?]
  constructor
  · intro read
    obtain ⟨s, stepped, last⟩ := Option.bind_eq_some_iff.mp read
    split at last
    · exact ⟨s, stepped, ‹_›, Option.some.inj last⟩
    · cases last
  · rintro ⟨s, stepped, ended, rfl⟩
    rw [stepped]
    simp [ended]

/-- Nothing can follow the tokens of a whole value. -/
theorem eq_nil_of_document? {ts vs : List Token} {d e : Document} (read : document? ts = some d)
    (whole : document? (ts ++ vs) = some e) : vs = [] := by
  obtain ⟨s, stepped, ended, -⟩ := document?_iff.mp read
  obtain ⟨s', stepped', -⟩ := document?_iff.mp whole
  rw [State.steps_append, stepped, Option.bind_some] at stepped'
  cases vs with
  | nil => rfl
  | cons v vs =>
    obtain ⟨next, impossible, -⟩ := Option.bind_eq_some_iff.mp stepped'
    have none : s.step v = none := by
      unfold State.step
      rw [ended]
    rw [none] at impossible
    cases impossible

/-- The tokens of a record do not end in a value that has no children. -/
theorem closed_of_document? {ts : List Token} {d : Document}
    (read : document? (.openRecord :: ts) = some d) (v : Document) :
    (Token.openRecord :: ts).getLast? ≠ some (.scalar v) := by
  intro last
  obtain ⟨us, split⟩ := List.getLast?_eq_some_iff.mp last
  obtain ⟨s, stepped, ended, -⟩ := document?_iff.mp read
  rw [split, State.steps_append] at stepped
  obtain ⟨before, first, behind⟩ := Option.bind_eq_some_iff.mp stepped
  obtain ⟨after, final, same⟩ := Option.bind_eq_some_iff.mp behind
  obtain rfl := Option.some.inj same
  cases us with
  | nil => cases split
  | cons t us =>
    obtain ⟨rfl, -⟩ := List.cons.inj split
    have opened : State.Inside ⟨.keyOrClose, [.record [] none true], .null⟩ :=
      .inl (List.cons_ne_nil _ _)
    exact (opened.steps first).not_nothing final ended

/-- A text that begins with a brace and is read is not the beginning of another text that is read,
unless only blanks follow. -/
theorem blank_of_read? {front back : List Char} {d e : Document}
    (read : read? (String.ofList ('\x7b' :: front)) = some d)
    (whole : read? (String.ofList ('\x7b' :: front ++ back)) = some e) :
    ∀ c ∈ back, isBlank c = true := by
  obtain ⟨ts, tokens, document⟩ := Option.bind_eq_some_iff.mp read
  obtain ⟨us, tokens', document'⟩ := Option.bind_eq_some_iff.mp whole
  rw [String.toList_ofList] at tokens tokens'
  obtain ⟨us, rfl⟩ : ∃ us, ts = .openRecord :: us := by
    obtain ⟨n, t, rest, -, scanned, later⟩ := tokens?_printed (by simp [isBlank]) tokens
    obtain ⟨rfl, rfl⟩ := Prod.mk.inj (Option.some.inj scanned)
    obtain ⟨vs, rfl, -⟩ := tokens?_onward later
    exact ⟨vs, rfl⟩
  obtain ⟨vs, rfl, blank⟩ := tokens?_back tokens (closed_of_document? document) tokens'
  exact blank (eq_nil_of_document? document document')

end ClusterConf.Json
