import ClusterConf.Proofs.JsonNumerals
set_option autoImplicit false

/-!
The tokens that a JSON text is cut into. Main statements: the written form of a value without
children is one token wherever nothing stands behind it that would belong to it, and the tokens of a
text are found however far the scanner is allowed to go.
-/
namespace ClusterConf.Json

/-- The tokens of a text, with what is scanned for each of them. -/
inductive Lexed : List Char → List Token → Prop
  | done {blanks : List Char} (all : ∀ c ∈ blanks, isBlank c = true) : Lexed blanks []
  | token {cs rest : List Char} {t : Token} {ts : List Token} (printed : cs.dropWhile isBlank ≠ [])
      (scanned : scanToken (cs.dropWhile isBlank) = some (t, rest))
      (shorter : rest.length < (cs.dropWhile isBlank).length) (more : Lexed rest ts) :
      Lexed cs (t :: ts)

namespace Lexed

variable {cs rest : List Char} {t : Token} {ts : List Token}

/-- As many steps as there are characters find all tokens. -/
theorem tokens? (lexed : Lexed cs ts) {fuel : Nat} (enough : cs.length ≤ fuel)
    (done : List Token) : Json.tokens? fuel cs done = some (done.reverse ++ ts) := by
  induction lexed generalizing fuel done with
  | @done blanks all =>
    rw [List.append_nil]
    cases fuel with
    | zero =>
      rw [Json.tokens?, if_pos (List.all_eq_true.mpr all)]
    | succ fuel =>
      have none : blanks.dropWhile isBlank = [] := by
        rw [← List.append_nil blanks, List.dropWhile_append_of_pos all]
        rfl
      rw [Json.tokens?, none]
  | @token cs rest t ts printed scanned shorter _ ih =>
    have inside := (List.dropWhile_sublist isBlank (l := cs)).length_le
    cases fuel with
    | zero => omega
    | succ fuel =>
      have left : rest.length ≤ fuel := by omega
      have found := ih left (t :: done)
      rw [Json.tokens?]
      split
      · rename_i none
        exact absurd none printed
      · rw [scanned]
        simpa using found

theorem blanks {front : List Char} (all : ∀ c ∈ front, isBlank c = true) (lexed : Lexed rest ts) :
    Lexed (front ++ rest) ts := by
  cases lexed with
  | done more => exact .done (List.forall_mem_append.mpr ⟨all, more⟩)
  | token printed scanned shorter more =>
    have same : (front ++ rest).dropWhile isBlank = rest.dropWhile isBlank :=
      List.dropWhile_append_of_pos all
    exact .token (same ▸ printed) (same ▸ scanned) (same ▸ shorter) more

/-- What is scanned at the start of a text is its first token. -/
theorem cons {c : Char} {more : List Char} (printed : isBlank c = false)
    (scanned : scanToken (c :: more) = some (t, rest)) (shorter : rest.length ≤ more.length)
    (lexed : Lexed rest ts) : Lexed (c :: more) (t :: ts) := by
  have same : (c :: more).dropWhile isBlank = c :: more := by simp [printed]
  refine .token ?_ ?_ ?_ lexed
  · rw [same]
    exact List.cons_ne_nil c more
  · rwa [same]
  · rw [same]
    exact Nat.lt_succ_of_le shorter

end Lexed

/-- A text spells tokens wherever it is followed by nothing that would belong to the last one. -/
def Spells (text : List Char) (ts : List Token) : Prop :=
  ∀ rest ts', Ends rest → Lexed rest ts' → Lexed (text ++ rest) (ts ++ ts')

theorem ends_nil : Ends [] := nofun

theorem ends_cons {c : Char} {rest : List Char}
    (other : isDigit c = false ∧ c ≠ '.' ∧ c ≠ 'e' ∧ c ≠ 'E') : Ends (c :: rest) := by
  intro c' same
  obtain rfl := Option.some.inj same
  exact other

/-- A text by itself has the tokens that it spells. -/
theorem Spells.lexed {text : List Char} {ts : List Token} (spells : Spells text ts) :
    Lexed text ts := by
  simpa using spells [] [] ends_nil (.done (List.forall_mem_nil _))

/-- What can follow a number without belonging to it. -/
def Breaks (text : List Char) : Prop := ∀ rest, Ends rest → Ends (text ++ rest)

theorem breaks_nil : Breaks [] := fun _ ends => ends

theorem Breaks.append {text more : List Char} (first : Breaks text) (second : Breaks more) :
    Breaks (text ++ more) := by
  intro rest ends
  rw [List.append_assoc]
  exact first _ (second rest ends)

/-- A character that is a token by itself. -/
structure Symbol (c : Char) (t : Token) : Prop where
  printed : isBlank c = false
  other : isDigit c = false ∧ c ≠ '.' ∧ c ≠ 'e' ∧ c ≠ 'E'
  scanned : ∀ rest, scanToken (c :: rest) = some (t, rest)

theorem symbol_openList : Symbol '[' .openList := ⟨rfl, by decide, fun _ => rfl⟩

theorem symbol_closeList : Symbol ']' .closeList := ⟨rfl, by decide, fun _ => rfl⟩

theorem symbol_openRecord : Symbol '\x7b' .openRecord := ⟨rfl, by decide, fun _ => rfl⟩

theorem symbol_closeRecord : Symbol '\x7d' .closeRecord := ⟨rfl, by decide, fun _ => rfl⟩

theorem symbol_comma : Symbol ',' .comma := ⟨rfl, by decide, fun _ => rfl⟩

theorem symbol_colon : Symbol ':' .colon := ⟨rfl, by decide, fun _ => rfl⟩

theorem Symbol.breaks {c : Char} {t : Token} (symbol : Symbol c t) (text : List Char) :
    Breaks (c :: text) := fun _ _ => ends_cons symbol.other

namespace Spells

variable {text more : List Char} {ts us : List Token}

theorem nil : Spells [] [] := fun _ _ _ lexed => lexed

theorem append (spells : Spells text ts) (breaks : Breaks more) (rest : Spells more us) :
    Spells (text ++ more) (ts ++ us) := by
  intro behind ts' ends lexed
  rw [List.append_assoc, List.append_assoc]
  exact spells _ _ (breaks behind ends) (rest behind ts' ends lexed)

theorem blanks {front : List Char} (all : ∀ c ∈ front, isBlank c = true) (spells : Spells text ts) :
    Spells (front ++ text) ts := by
  intro behind ts' ends lexed
  rw [List.append_assoc]
  exact .blanks all (spells behind ts' ends lexed)

theorem symbol {c : Char} {t : Token} (symbol : Symbol c t) (spells : Spells text ts) :
    Spells (c :: text) (t :: ts) := fun behind ts' ends lexed =>
  .cons symbol.printed (symbol.scanned _) (Nat.le_refl _) (spells behind ts' ends lexed)

end Spells

section Strings

/-- A character that stands for itself in a string. -/
theorem scanString_plain {c : Char} (quote : c ≠ '"') (backslash : c ≠ '\\') (printed : ¬ c < ' ')
    (rest : List Char) (scan : StringScan) :
    scanString (c :: rest) scan = scanString rest (scan.char c) := by
  rw [scanString]
  · simp [printed, backslash]
  · exact quote
  · exact fun _ _ _ _ _ same _ => backslash same
  · exact fun _ _ same _ => backslash same

/-- A control character is escaped by its number. -/
theorem scanString_control {c : Char} (control : c < ' ') (rest : List Char) (text : String) :
    scanString (("\\u00" ++ String.ofList [hexDigit (c.toNat / 16), hexDigit (c.toNat % 16)]).toList
      ++ rest) ⟨text, none, true⟩ = scanString rest ⟨text.push c, none, true⟩ := by
  have small : c.toNat < 32 := control
  have quads : ∀ n : Fin 32,
      hexQuad? '0' '0' (hexDigit (n.val / 16)) (hexDigit (n.val % 16)) = some n.val := by decide
  have unit : (⟨text, none, true⟩ : StringScan).unit c.toNat = ⟨text.push c, none, true⟩ := by
    have trailing : ¬ (0xdc00 ≤ c.toNat ∧ c.toNat < 0xe000) := by omega
    have leading : ¬ (0xd800 ≤ c.toNat ∧ c.toNat < 0xdc00) := by omega
    rw [StringScan.unit]
    simp only [Bool.and_eq_true, decide_eq_true_eq, trailing, leading, if_false, Char.ofNat_toNat]
    rfl
  have written :
      ("\\u00" ++ String.ofList [hexDigit (c.toNat / 16), hexDigit (c.toNat % 16)]).toList
      ++ rest = '\\' :: 'u' :: '0' :: '0' :: hexDigit (c.toNat / 16) :: hexDigit (c.toNat % 16) ::
        rest := by
    rw [String.toList_append, String.toList_ofList]
    simp
  rw [written, scanString, quads ⟨c.toNat, small⟩]
  exact congrArg (scanString rest) unit

/-- What a character is escaped to is scanned as that character. -/
theorem scanString_escapeChar (c : Char) (rest : List Char) (text : String) :
    scanString ((escapeChar c).toList ++ rest) ⟨text, none, true⟩ =
      scanString rest ⟨text.push c, none, true⟩ := by
  by_cases special : c ∈ ['"', '\\', '\x08', '\x0c', '\n', '\r', '\t']
  · simp only [List.mem_cons, List.not_mem_nil, or_false] at special
    rcases special with rfl | rfl | rfl | rfl | rfl | rfl | rfl <;> rfl
  · simp only [List.mem_cons, List.not_mem_nil, or_false, not_or] at special
    obtain ⟨quote, backslash, bs, ff, lf, cr, tab⟩ := special
    by_cases control : c < ' '
    · have escaped : escapeChar c =
          "\\u00" ++ String.ofList [hexDigit (c.toNat / 16), hexDigit (c.toNat % 16)] := by
        simp [escapeChar, quote, backslash, bs, ff, lf, cr, tab, control]
      rw [escaped]
      exact scanString_control control rest text
    · have plain : (escapeChar c).toList = [c] := by
        simp [escapeChar, quote, backslash, bs, ff, lf, cr, tab, control]
      rw [plain]
      exact scanString_plain quote backslash control rest _

theorem scanString_quote (cs rest : List Char) (text : String) :
    scanString (cs.flatMap (fun c => (escapeChar c).toList) ++ '"' :: rest) ⟨text, none, true⟩ =
      some (some (text ++ String.ofList cs), rest) := by
  induction cs generalizing text with
  | nil => simp [scanString, StringScan.settle]
  | cons c cs ih =>
    rw [List.flatMap_cons, List.append_assoc, scanString_escapeChar, ih]
    have same : text.push c ++ String.ofList cs = text ++ String.ofList (c :: cs) := by
      rw [← String.toList_inj]
      simp
    rw [same]

theorem toList_quote (s : String) :
    (quote s).toList = '"' :: (s.toList.flatMap (fun c => (escapeChar c).toList) ++ ['"']) := by
  have written : ∀ (cs : List Char) (out : String),
      (cs.foldl (fun out c => out ++ escapeChar c) out).toList =
        out.toList ++ cs.flatMap fun c => (escapeChar c).toList := by
    intro cs
    induction cs with
    | nil => simp
    | cons c cs ih =>
      intro out
      rw [List.foldl_cons, ih, String.toList_append, List.append_assoc, List.flatMap_cons]
  rw [quote, String.foldl_eq_foldl_toList, String.toList_append, written]
  rfl

theorem spells_quote (s : String) : Spells (quote s).toList [.string (some s)] := by
  intro rest ts' _ lexed
  rw [toList_quote, List.cons_append, List.append_assoc]
  have scanned : scanToken ('"' :: (s.toList.flatMap (fun c => (escapeChar c).toList) ++
      (['"'] ++ rest))) = some (.string (some s), rest) := by
    have text : "" ++ String.ofList s.toList = s := by simp
    rw [scanToken, List.singleton_append, scanString_quote, text]
    rfl
  refine .cons rfl scanned ?_ lexed
  simp only [List.length_append]
  omega

end Strings

section Scalars

theorem scanToken_number {c : Char} (first : c = '-' ∨ isDigit c = true) (cs : List Char) :
    scanToken (c :: cs) = (scanNumber (c :: cs)).map fun (l, rest) => (.scalar l.value, rest) := by
  have other : ∀ d : Char, d ≠ '-' → isDigit d = false → c ≠ d := by
    rintro d minus digit rfl
    rcases first with rfl | same
    · exact minus rfl
    · rw [digit] at same
      cases same
  unfold scanToken
  split
  case h_11 => rfl
  all_goals
    rename_i same
    exact absurd (List.cons.inj same).1 (other _ (by decide) (by decide))

/-- A number begins with a minus sign or a digit. -/
theorem Literal.Proper.exists_head {l : Literal} (proper : l.Proper) :
    ∃ c more, l.text = c :: more ∧ (c = '-' ∨ isDigit c = true) := by
  cases sign : l.negative with
  | true => exact ⟨'-', _, by rw [Literal.text, sign]; rfl, .inl rfl⟩
  | false =>
    obtain ⟨c, more, first⟩ := List.exists_cons_of_ne_nil proper.whole.some
    refine ⟨c, _, by rw [Literal.text, sign, first]; rfl, .inr ?_⟩
    exact proper.whole.all c (by rw [first]; exact List.mem_cons_self)

theorem spells_literal {l : Literal} (proper : l.Proper) : Spells l.text [.scalar l.value] := by
  intro rest ts' ends lexed
  have scanned := Literal.scanNumber_text proper ends
  obtain ⟨c, more, written, first⟩ := proper.exists_head
  have printed : isBlank c = false := by
    rcases first with rfl | digit
    · rfl
    · simp only [isBlank, Bool.or_eq_false_iff, beq_eq_false_iff_ne]
      refine ⟨⟨⟨?_, ?_⟩, ?_⟩, ?_⟩ <;> rintro rfl <;> exact absurd digit (by decide)
  rw [written, List.cons_append] at scanned ⊢
  refine .cons printed ?_ ?_ lexed
  · rw [scanToken_number first, scanned]
    rfl
  · rw [List.length_append]
    omega

theorem spells_word {c : Char} {word : List Char} {d : Document} (printed : isBlank c = false)
    (scanned : ∀ rest, scanToken (c :: (word ++ rest)) = some (.scalar d, rest)) :
    Spells (c :: word) [.scalar d] := by
  intro rest ts' _ lexed
  have long : rest.length ≤ (word ++ rest).length := by
    rw [List.length_append]
    omega
  exact .cons printed (scanned rest) long lexed

theorem spells_true : Spells "true".toList [.scalar (.flag true)] :=
  spells_word rfl fun _ => rfl

theorem spells_false : Spells "false".toList [.scalar (.flag false)] :=
  spells_word rfl fun _ => rfl

theorem spells_null : Spells "null".toList [.scalar .null] := spells_word rfl fun _ => rfl

end Scalars

end ClusterConf.Json
