import ClusterConf.Proofs.JsonTokens
set_option autoImplicit false

/-!
Reading a JSON text that was written. Main statement: an indented text is read as the document it
was written from, in which each value without children is what its own text is read as.
-/
namespace ClusterConf.Json

mutual

/-- What a document becomes when it is written and read again: its lists and records stay, and each
value without children becomes what its own text is read as. -/
def reread : Document → Document
  | .list items => .list (rereadItems items)
  | .record members => .record (rereadMembers members)
  | d => (read? (writeScalar d)).getD .unreadable

def rereadItems : List Document → List Document
  | [] => []
  | d :: rest => reread d :: rereadItems rest

def rereadMembers : List (String × Document) → List (String × Document)
  | [] => []
  | (name, d) :: rest => (name, reread d) :: rereadMembers rest

end

/-- Tokens that a value is read from, wherever one is expected. -/
def Denotes (ts : List Token) (d : Document) : Prop :=
  ∀ (expected : Expected) (stack : List Frame) (result : Document) (more : List Token),
    expected = .value ∨ expected = .valueOrClose →
      State.steps ⟨expected, stack, result⟩ (ts ++ more) = State.steps (.give d stack) more

theorem Denotes.document? {ts : List Token} {d : Document} (denotes : Denotes ts d) :
    document? ts = some d := by
  have read := denotes .value [] .null [] (.inl rfl)
  rw [List.append_nil] at read
  rw [Json.document?, read]
  rfl

theorem denotes_string (s : String) : Denotes [.string (some s)] (.text s) := by
  rintro expected stack result more (rfl | rfl) <;> rfl

theorem denotes_scalar (d : Document) : Denotes [.scalar d] d := by
  rintro expected stack result more (rfl | rfl) <;> rfl

theorem read?_of_spells {text : String} {ts : List Token} {d : Document}
    (spells : Spells text.toList ts) (denotes : Denotes ts d) : read? text = some d := by
  have found := spells.lexed.tokens? (Nat.le_refl _) []
  rw [read?, found]
  exact denotes.document?

/-- The text of a value without children is one token. -/
theorem exists_spells_scalar (d : Document) : ∃ ts v, Spells (writeScalar d).toList ts ∧
    Denotes ts v := by
  have null : ∃ ts v, Spells "null".toList ts ∧ Denotes ts v :=
    ⟨_, _, spells_null, denotes_scalar _⟩
  cases d with
  | flag b =>
    cases b with
    | true => exact ⟨_, _, spells_true, denotes_scalar _⟩
    | false => exact ⟨_, _, spells_false, denotes_scalar _⟩
  | integer i =>
    rw [writeScalar, Literal.toList_toString_int]
    exact ⟨_, _, spells_literal (Literal.proper_ofInt i), denotes_scalar _⟩
  | number d =>
    rw [writeScalar, writeDouble]
    split
    · rename_i finite
      obtain ⟨l, fractional, written, -⟩ := write_text finite
      rw [written]
      exact ⟨_, _, spells_literal fractional.proper, denotes_scalar _⟩
    · exact null
  | text s => exact ⟨_, _, spells_quote s, denotes_string s⟩
  | null | list items | record members | unreadable => exact null

theorem exists_spells_leaf {d : Document}
    (leaf : reread d = (read? (writeScalar d)).getD .unreadable) :
    ∃ ts, Spells (writeScalar d).toList ts ∧ Denotes ts (reread d) := by
  obtain ⟨ts, v, spells, denotes⟩ := exists_spells_scalar d
  refine ⟨ts, spells, ?_⟩
  rw [leaf, read?_of_spells spells denotes]
  exact denotes

theorem isBlank_newLine (depth : Nat) : ∀ c ∈ (newLine depth).toList, isBlank c = true := by
  intro c member
  rw [newLine, toList_pushn] at member
  rcases List.mem_append.mp member with feed | indent
  · rw [List.mem_singleton.mp feed]
    rfl
  · rw [List.eq_of_mem_replicate indent]
    rfl

theorem breaks_newLine (depth : Nat) (text : List Char) :
    Breaks ((newLine depth).toList ++ text) := by
  intro rest _
  rw [newLine, toList_pushn]
  exact ends_cons (by decide)

/-- What an open list holds after tokens that go on with it. -/
def Continues (ts : List Token) (items : List Document) : Prop :=
  ∀ (before : List Document) (stack : List Frame) (more : List Token),
    State.steps ⟨.commaOrClose, .list before :: stack, .null⟩ (ts ++ more) =
      State.steps ⟨.commaOrClose, .list (items.reverse ++ before) :: stack, .null⟩ more

/-- What an open record holds after tokens that go on with it. -/
def Extends (ts : List Token) (members : List (String × Document)) : Prop :=
  ∀ (before : List (String × Document)) (stack : List Frame) (more : List Token),
    State.steps ⟨.commaOrClose, .record before none true :: stack, .null⟩ (ts ++ more) =
      State.steps
        ⟨.commaOrClose, .record (members.reverse ++ before) none true :: stack, .null⟩ more

theorem denotes_list {ts us : List Token} {d : Document} {items : List Document}
    (first : Denotes ts d) (rest : Continues us items) :
    Denotes (.openList :: (ts ++ (us ++ [.closeList]))) (.list (d :: items)) := by
  intro expected stack result more wanted
  have opened : State.steps ⟨expected, stack, result⟩
      (.openList :: (ts ++ (us ++ [.closeList])) ++ more) =
        State.steps ⟨.valueOrClose, .list [] :: stack, .null⟩
          (ts ++ (us ++ (.closeList :: more))) := by
    rcases wanted with rfl | rfl <;> simp [State.steps, State.step]
  rw [opened, first .valueOrClose (.list [] :: stack) .null _ (.inr rfl)]
  have given : State.give d (.list [] :: stack) =
      ⟨.commaOrClose, .list [d] :: stack, .null⟩ := rfl
  rw [given, rest]
  simp [State.steps, State.step]

theorem continues_cons {ts us : List Token} {d : Document} {items : List Document}
    (first : Denotes ts d) (rest : Continues us items) :
    Continues (.comma :: (ts ++ us)) (d :: items) := by
  intro before stack more
  have comma : State.steps ⟨.commaOrClose, .list before :: stack, .null⟩
      (.comma :: (ts ++ us) ++ more) =
        State.steps ⟨.value, .list before :: stack, .null⟩ (ts ++ (us ++ more)) := by
    simp [State.steps, State.step]
  rw [comma, first .value (.list before :: stack) .null _ (.inl rfl)]
  have given : State.give d (.list before :: stack) =
      ⟨.commaOrClose, .list (d :: before) :: stack, .null⟩ := rfl
  rw [given, rest]
  simp

/-- A member and what follows it, once its name is wanted. -/
theorem steps_member {ts us : List Token} {name : String} {d : Document}
    {members : List (String × Document)} (first : Denotes ts d) (rest : Extends us members)
    {expected : Expected} (wanted : expected = .key ∨ expected = .keyOrClose)
    (before : List (String × Document)) (stack : List Frame) (more : List Token) :
    State.steps ⟨expected, .record before none true :: stack, .null⟩
        (.string (some name) :: .colon :: (ts ++ (us ++ more))) =
      State.steps ⟨.commaOrClose,
        .record (((name, d) :: members).reverse ++ before) none true :: stack, .null⟩ more := by
  have named : State.steps ⟨expected, .record before none true :: stack, .null⟩
      (.string (some name) :: .colon :: (ts ++ (us ++ more))) =
        State.steps ⟨.value, .record before (some name) true :: stack, .null⟩
          (ts ++ (us ++ more)) := by
    rcases wanted with rfl | rfl <;> simp [State.steps, State.step]
  rw [named, first .value _ .null _ (.inl rfl)]
  have given : State.give d (.record before (some name) true :: stack) =
      ⟨.commaOrClose, .record ((name, d) :: before) none true :: stack, .null⟩ := rfl
  rw [given, rest]
  simp

theorem denotes_record {ts us : List Token} {name : String} {d : Document}
    {members : List (String × Document)} (first : Denotes ts d) (rest : Extends us members) :
    Denotes (.openRecord :: .string (some name) :: .colon :: (ts ++ (us ++ [.closeRecord])))
      (.record ((name, d) :: members)) := by
  intro expected stack result more wanted
  have opened : State.steps ⟨expected, stack, result⟩
      (.openRecord :: .string (some name) :: .colon :: (ts ++ (us ++ [.closeRecord])) ++ more) =
        State.steps ⟨.keyOrClose, .record [] none true :: stack, .null⟩
          (.string (some name) :: .colon :: (ts ++ (us ++ (.closeRecord :: more)))) := by
    rcases wanted with rfl | rfl <;> simp [State.steps, State.step]
  rw [opened, steps_member first rest (.inr rfl)]
  simp [State.steps, State.step, closed]

theorem extends_cons {ts us : List Token} {name : String} {d : Document}
    {members : List (String × Document)} (first : Denotes ts d) (rest : Extends us members) :
    Extends (.comma :: .string (some name) :: .colon :: (ts ++ us)) ((name, d) :: members) := by
  intro before stack more
  have comma : State.steps ⟨.commaOrClose, .record before none true :: stack, .null⟩
      (.comma :: .string (some name) :: .colon :: (ts ++ us) ++ more) =
        State.steps ⟨.key, .record before none true :: stack, .null⟩
          (.string (some name) :: .colon :: (ts ++ (us ++ more))) := by
    simp [State.steps, State.step]
  rw [comma, steps_member first rest (.inl rfl)]

/-- The name of a member, and what follows it. -/
theorem spells_member (name : String) {text : List Char} {ts : List Token}
    (spells : Spells text ts) : Spells ((quote name).toList ++ (':' :: ' ' :: text))
      (.string (some name) :: .colon :: ts) := by
  have blank : ∀ c ∈ [' '], isBlank c = true := List.forall_mem_singleton.mpr rfl
  exact (spells_quote name).append (symbol_colon.breaks _)
    (.symbol symbol_colon (.blanks blank spells))

mutual

/-- What an indented document adds to a text is read as that document. -/
theorem pretty_denotes (d : Document) (out : String) (depth : Nat) :
    ∃ text ts, (prettyOnto out depth d).toList = out.toList ++ text ∧ Spells text ts ∧
      Denotes ts (reread d) := by
  have leaf : ∀ {d : Document}, prettyOnto out depth d = out ++ writeScalar d →
      reread d = (read? (writeScalar d)).getD .unreadable →
      ∃ text ts, (prettyOnto out depth d).toList = out.toList ++ text ∧ Spells text ts ∧
        Denotes ts (reread d) := by
    intro d written again
    obtain ⟨ts, spells, denotes⟩ := exists_spells_leaf again
    exact ⟨_, ts, by rw [written, String.toList_append], spells, denotes⟩
  match d with
  | .null => exact leaf rfl rfl
  | .flag _ => exact leaf rfl rfl
  | .integer _ => exact leaf rfl rfl
  | .number _ => exact leaf rfl rfl
  | .text _ => exact leaf rfl rfl
  | .unreadable => exact leaf rfl rfl
  | .list [] =>
    refine ⟨['[', ']'], [.openList, .closeList], String.toList_append,
      .symbol symbol_openList (.symbol symbol_closeList .nil), ?_⟩
    rintro expected stack result more (rfl | rfl) <;>
      simp [State.steps, State.step, reread, rereadItems]
  | .list (d :: rest) =>
    let opened := out ++ "[" ++ newLine (depth + 1)
    obtain ⟨first, ts, written, spells, denotes⟩ := pretty_denotes d opened (depth + 1)
    obtain ⟨tail, us, more, breaks, spellsTail, continues⟩ :=
      prettyItems_continues rest (prettyOnto opened (depth + 1) d) (depth + 1)
    have closing : Spells ((newLine depth).toList ++ [']']) [.closeList] :=
      .blanks (isBlank_newLine depth) (.symbol symbol_closeList .nil)
    have behind := spellsTail.append (breaks_newLine depth _) closing
    refine ⟨_, _, ?_, .symbol symbol_openList <| .blanks (isBlank_newLine (depth + 1)) <|
      spells.append ?_ behind, denotes_list denotes continues⟩
    · have whole : prettyOnto out depth (.list (d :: rest)) =
          prettyItems (prettyOnto opened (depth + 1) d) (depth + 1) false rest ++
            newLine depth ++ "]" := rfl
      rw [whole, String.toList_append, String.toList_append, more, written]
      simp [opened]
    · exact breaks.append (breaks_newLine depth _)
  | .record [] =>
    refine ⟨['\x7b', '\x7d'], [.openRecord, .closeRecord], String.toList_append,
      .symbol symbol_openRecord (.symbol symbol_closeRecord .nil), ?_⟩
    rintro expected stack result more (rfl | rfl) <;>
      simp [State.steps, State.step, reread, rereadMembers, closed]
  | .record ((name, d) :: rest) =>
    let opened := out ++ "\x7b" ++ newLine (depth + 1) ++ quote name ++ ": "
    obtain ⟨first, ts, written, spells, denotes⟩ := pretty_denotes d opened (depth + 1)
    obtain ⟨tail, us, more, breaks, spellsTail, extending⟩ :=
      prettyMembers_extends rest (prettyOnto opened (depth + 1) d) (depth + 1)
    have closing : Spells ((newLine depth).toList ++ ['\x7d']) [.closeRecord] :=
      .blanks (isBlank_newLine depth) (.symbol symbol_closeRecord .nil)
    have behind := spells.append (breaks.append (breaks_newLine depth _))
      (spellsTail.append (breaks_newLine depth _) closing)
    refine ⟨_, _, ?_, .symbol symbol_openRecord <| .blanks (isBlank_newLine (depth + 1)) <|
      spells_member name behind, denotes_record denotes extending⟩
    have whole : prettyOnto out depth (.record ((name, d) :: rest)) =
        prettyMembers (prettyOnto opened (depth + 1) d) (depth + 1) false rest ++
          newLine depth ++ "\x7d" := rfl
    rw [whole, String.toList_append, String.toList_append, more, written]
    simp [opened]

/-- What the further items of a list add to a text is read as those items. -/
theorem prettyItems_continues (items : List Document) (out : String) (depth : Nat) :
    ∃ text ts, (prettyItems out depth false items).toList = out.toList ++ text ∧ Breaks text ∧
      Spells text ts ∧ Continues ts (rereadItems items) := by
  match items with
  | [] => exact ⟨[], [], (List.append_nil _).symm, breaks_nil, .nil, fun _ _ _ => rfl⟩
  | d :: rest =>
    let opened := out ++ "," ++ newLine depth
    obtain ⟨first, ts, written, spells, denotes⟩ := pretty_denotes d opened depth
    obtain ⟨tail, us, more, breaks, spellsTail, continues⟩ :=
      prettyItems_continues rest (prettyOnto opened depth d) depth
    refine ⟨_, _, ?_, symbol_comma.breaks _, .symbol symbol_comma <|
      .blanks (isBlank_newLine depth) <| spells.append breaks spellsTail,
      continues_cons denotes continues⟩
    have whole : prettyItems out depth false (d :: rest) =
        prettyItems (prettyOnto opened depth d) depth false rest := rfl
    rw [whole, more, written]
    simp [opened]

/-- What the further members of a record add to a text is read as those members. -/
theorem prettyMembers_extends (members : List (String × Document)) (out : String) (depth : Nat) :
    ∃ text ts, (prettyMembers out depth false members).toList = out.toList ++ text ∧ Breaks text ∧
      Spells text ts ∧ Extends ts (rereadMembers members) := by
  match members with
  | [] => exact ⟨[], [], (List.append_nil _).symm, breaks_nil, .nil, fun _ _ _ => rfl⟩
  | (name, d) :: rest =>
    let opened := out ++ "," ++ newLine depth ++ quote name ++ ": "
    obtain ⟨first, ts, written, spells, denotes⟩ := pretty_denotes d opened depth
    obtain ⟨tail, us, more, breaks, spellsTail, extending⟩ :=
      prettyMembers_extends rest (prettyOnto opened depth d) depth
    refine ⟨_, _, ?_, symbol_comma.breaks _, .symbol symbol_comma <|
      .blanks (isBlank_newLine depth) <| spells_member name (spells.append breaks spellsTail),
      extends_cons denotes extending⟩
    have whole : prettyMembers out depth false ((name, d) :: rest) =
        prettyMembers (prettyOnto opened depth d) depth false rest := rfl
    rw [whole, more, written]
    simp [opened]

end

/-- An indented document is read as what it becomes. -/
theorem read?_pretty (d : Document) : read? (pretty d) = some (reread d) := by
  obtain ⟨text, ts, written, spells, denotes⟩ := pretty_denotes d "" 0
  refine read?_of_spells ?_ denotes
  rw [pretty, written]
  exact spells

section Scalars

theorem rereadItems_eq (items : List Document) : rereadItems items = items.map reread := by
  induction items with
  | nil => rfl
  | cons d rest ih => rw [rereadItems, ih, List.map_cons]

theorem rereadMembers_eq (members : List (String × Document)) :
    rereadMembers members = members.map fun (name, d) => (name, reread d) := by
  induction members with
  | nil => rfl
  | cons head rest ih => rw [rereadMembers, ih, List.map_cons]

/-- A value without children whose text spells one value becomes that value. -/
theorem reread_of_spells {d v : Document} {ts : List Token}
    (leaf : reread d = (read? (writeScalar d)).getD .unreadable)
    (spells : Spells (writeScalar d).toList ts) (denotes : Denotes ts v) : reread d = v := by
  rw [leaf, read?_of_spells spells denotes]
  rfl

@[simp] theorem reread_text (s : String) : reread (.text s) = .text s :=
  reread_of_spells rfl (spells_quote s) (denotes_string s)

@[simp] theorem reread_null : reread .null = .null :=
  reread_of_spells rfl spells_null (denotes_scalar _)

@[simp] theorem reread_flag (b : Bool) : reread (.flag b) = .flag b := by
  cases b with
  | true => exact reread_of_spells rfl spells_true (denotes_scalar _)
  | false => exact reread_of_spells rfl spells_false (denotes_scalar _)

theorem reread_integer {i : Int} (low : -(2 ^ 63) ≤ i) (high : i < 2 ^ 64) :
    reread (.integer i) = .integer i := by
  refine reread_of_spells rfl ?_ (denotes_scalar _)
  rw [writeScalar, Literal.toList_toString_int, ← Literal.value_ofInt low high]
  exact spells_literal (Literal.proper_ofInt i)

end Scalars

end ClusterConf.Json

namespace ClusterConf.Double

open Json

/-- What a number becomes when it is written in JSON and read again, if that is a number. -/
def reread? (d : Double) : Option Double :=
  match read? (writeDouble d) with
  | some (.number e) => some e
  | _ => none

/-- Whether a number becomes itself can be computed. -/
instance (d : Double) : Decidable (d.reread? = some d) :=
  decidable_of_iff (d.reread?.map bits = some d.bits) <| by
    have same : ∀ e : Double, e.bits = d.bits ↔ e = d := by
      rintro ⟨e⟩
      cases d
      simp
    cases d.reread? <;> simp [same]

/-- A finite number becomes a number, unless its text lies beyond the range of doubles. Others
become null. -/
theorem reread_number (d : Double) : reread (.number d) =
    match d.reread? with
    | some e => .number e
    | none => if d.isFinite then .unreadable else .null := by
  by_cases finite : d.isFinite = true
  · obtain ⟨l, fractional, written, -⟩ := write_text finite
    have text : writeDouble d = d.write doubleStyle := if_pos finite
    have spells : Spells (writeDouble d).toList [.scalar l.value] := by
      rw [text, written]
      exact spells_literal fractional.proper
    have becomes : reread (.number d) = l.value := reread_of_spells rfl spells (denotes_scalar _)
    rw [becomes, reread?, read?_of_spells spells (denotes_scalar _), fractional.value]
    cases l.double? with
    | some e => rfl
    | none => exact (if_pos finite).symm
  · have text : writeDouble d = "null" := if_neg finite
    have spells : Spells (writeDouble d).toList [.scalar .null] := by
      rw [text]
      exact spells_null
    have becomes : reread (.number d) = .null := reread_of_spells rfl spells (denotes_scalar _)
    rw [becomes, reread?, read?_of_spells spells (denotes_scalar _)]
    exact (if_neg finite).symm

theorem reread?_of_infinite {d : Double} (other : d.isFinite = false) : d.reread? = none := by
  have text : writeDouble d = "null" := if_neg (by rw [other]; exact Bool.false_ne_true)
  have spells : Spells (writeDouble d).toList [.scalar .null] := by
    rw [text]
    exact spells_null
  rw [reread?, read?_of_spells spells (denotes_scalar _)]

end ClusterConf.Double
