import ClusterConf.Codec
import ClusterConf.Proofs.JsonReading
import Mathlib.Data.List.Forall2
set_option autoImplicit false

/-!
What typed values become when they are written as documents, those are kept in some text format,
and all is read again. Main statements: a list, a table or a record becomes what its parts become,
and a codec is faithful when the codecs of all parts are.
-/
namespace ClusterConf

/-- How documents are kept in a text format: the trees that they are read as, which stand for the
same texts, truth values, lists and records. What becomes of numbers is left to the format. -/
structure Rendering (ν : Type) where
  source : Source ν
  render : Document → ν
  follow_eq (d : Document) : source.follow (render d) = pure (render d)
  text_eq (s : String) : source.text? (render (.text s)) = some s
  flag_eq (b : Bool) : source.flag? (render (.flag b)) = some b
  integer_eq {i : Int} (low : -(2 ^ 63) ≤ i) (high : i < 2 ^ 63) :
    source.integer? (render (.integer i)) = some i
  natural_eq {n : Nat} (small : n < 2 ^ 63) : source.natural? (render (.integer n)) = some n
  unset_null : source.unset? (render .null) = some true
  unset_text (s : String) : source.unset? (render (.text s)) = some false
  unset_record (members : List (String × Document)) :
    source.unset? (render (.record members)) = some false
  items_eq (items : List Document) : source.items? (render (.list items)) = some (items.map render)
  members_eq (members : List (String × Document)) : source.members? (render (.record members)) =
    some (members.map fun (name, d) => (render (.text name), render d))
  positions_eq (members : List (String × Document)) :
    source.positions? (render (.record members)) = none

namespace Rendering

variable {ν : Type} (R : Rendering ν)

def number? (d : Double) : Option Double := R.source.number? (R.render (.number d))

theorem readText_eq (s : String) : R.source.readText (R.render (.text s)) = pure s := by
  rw [Source.readText, R.follow_eq, pure_bind, R.text_eq]
  rfl

theorem readMembers_eq (members : List (String × Document)) :
    R.source.readMembers (R.render (.record members)) =
      pure (members.map fun (name, d) => (name, R.render d)) := by
  have named : (members.map fun (name, d) => (R.render (.text name), R.render d)).mapM (fun e =>
      do return (← R.source.readText e.1, e.2) : _ → Reading (String × ν)) =
        pure (members.map fun (name, d) => (name, R.render d)) := by
    induction members with
    | nil => rfl
    | cons head rest ih =>
      rw [List.map_cons, List.mapM_cons, ih, R.readText_eq]
      rfl
  rw [Source.readMembers, R.follow_eq, pure_bind, R.members_eq]
  exact named

end Rendering

def Json.rendering : Rendering Document where
  source := Document.source
  render := reread
  follow_eq _ := rfl
  text_eq s := by rw [reread_text]; rfl
  flag_eq b := by rw [reread_flag]; rfl
  integer_eq low high := by rw [reread_integer low (by omega)]; rfl
  natural_eq small := by rw [reread_integer (by omega) (by omega)]; rfl
  unset_null := by rw [reread_null]; rfl
  unset_text s := by rw [reread_text]; rfl
  unset_record _ := rfl
  items_eq items := by rw [reread, rereadItems_eq]; rfl
  members_eq members := by
    rw [reread, rereadMembers_eq]
    simp [Document.source]
  positions_eq _ := rfl

theorem Json.number?_rendering (d : Double) : Json.rendering.number? d = d.reread? := by
  change Document.source.number? (reread (.number d)) = d.reread?
  rw [Double.reread_number]
  cases d.reread? with
  | some e => rfl
  | none =>
    split
    · rename_i impossible
      cases impossible
    · split <;> rfl

theorem mapM_eq_some_iff {α β : Type} {f : α → Option β} {as : List α} {bs : List β} :
    as.mapM f = some bs ↔ List.Forall₂ (fun a b => f a = some b) as bs := by
  induction as generalizing bs with
  | nil => cases bs <;> simp
  | cons a rest ih =>
    rw [List.mapM_cons]
    cases first : f a with
    | none =>
      refine ⟨nofun, fun became => ?_⟩
      cases became with
      | cons same => exact absurd (first.symm.trans same) nofun
    | some b =>
      cases bs with
      | nil =>
        refine ⟨fun became => ?_, nofun⟩
        cases later : rest.mapM f <;> simp [later] at became
      | cons c bs =>
        rw [List.forall₂_cons, ← ih, first]
        cases later : rest.mapM f <;> simp

theorem forall₂_left {α β : Type} {R : α → β → Prop} {as : List α} {bs : List β}
    (related : List.Forall₂ R as bs) : ∀ a ∈ as, ∃ b, R a b := by
  induction related with
  | nil => exact fun a member => nomatch member
  | cons first _ ih => exact List.forall_mem_cons.mpr ⟨⟨_, first⟩, ih⟩

/-- A reading that follows no reference. -/
abbrev Reading.of {α : Type} (answer : Option α) : Reading α := liftM answer

namespace Codec

variable {α ν : Type}

/-- What a value becomes when it is written and read again. -/
def again (c : Codec α) (R : Rendering ν) (a : α) : Option α :=
  c.read? R.source 0 (R.render (c.write a))

/-- Values that were written are read without following references, in any format. -/
structure Steady (c : Codec α) : Prop where
  reads {ν : Type} (R : Rendering ν) (a : α) :
    c.read R.source (R.render (c.write a)) = Reading.of (c.again R a)

/-- Values become themselves, in any format. -/
structure Faithful (c : Codec α) : Prop where
  reads {ν : Type} (R : Rendering ν) (a : α) : c.read R.source (R.render (c.write a)) = pure a

/-- Values are never written as null. -/
structure Present (c : Codec α) : Prop where
  unset {ν : Type} (R : Rendering ν) (a : α) :
    R.source.unset? (R.render (c.write a)) = some false

variable {c : Codec α} {R : Rendering ν}

theorem again_of {a : α} {answer : Option α}
    (read : c.read R.source (R.render (c.write a)) = Reading.of answer) :
    c.again R a = answer := by
  rw [again, Codec.read?, read]
  cases answer <;> rfl

theorem steady_of {become : {ν : Type} → Rendering ν → α → Option α}
    (reads : ∀ {ν : Type} (R : Rendering ν) a,
      c.read R.source (R.render (c.write a)) = Reading.of (become R a)) :
    c.Steady ∧ ∀ {ν : Type} (R : Rendering ν) a, c.again R a = become R a := by
  have same : ∀ {ν : Type} (R : Rendering ν) a, c.again R a = become R a :=
    fun R a => again_of (reads R a)
  refine ⟨⟨fun R a => ?_⟩, same⟩
  rw [reads, same]

/-- However many references may be followed, a steady codec reads the same. -/
theorem Steady.read?_eq (steady : c.Steady) (R : Rendering ν) (limit : Nat) (a : α) :
    c.read? R.source limit (R.render (c.write a)) = c.again R a := by
  rw [Codec.read?, steady.reads]
  cases c.again R a <;> rfl

theorem Faithful.again (faithful : c.Faithful) (R : Rendering ν) (a : α) :
    c.again R a = some a :=
  again_of (faithful.reads R a)

theorem Faithful.steady (faithful : c.Faithful) : c.Steady := by
  refine ⟨fun R a => ?_⟩
  rw [faithful.again]
  exact faithful.reads R a

theorem faithful_of (steady : c.Steady)
    (same : ∀ {ν : Type} (R : Rendering ν) a, c.again R a = some a) : c.Faithful := by
  refine ⟨fun R a => ?_⟩
  rw [steady.reads, same]
  rfl

@[simp] theorem faithful_text : Codec.text.Faithful := ⟨fun R s => R.readText_eq s⟩

@[simp] theorem present_text : Codec.text.Present := ⟨fun R s => R.unset_text s⟩

@[simp] theorem faithful_flag : Codec.flag.Faithful := by
  refine ⟨fun R b => ?_⟩
  change (R.source.follow (R.render (.flag b)) >>= fun v => liftM (R.source.flag? v)) = pure b
  rw [R.follow_eq, pure_bind, R.flag_eq]
  rfl

@[simp] theorem faithful_int64 : Codec.int64.Faithful := by
  refine ⟨fun R i => ?_⟩
  have low := i.le_toInt
  have high := i.toInt_lt
  change (R.source.follow (R.render (.integer i.toInt)) >>= fun v =>
    (liftM (R.source.integer? v) : Reading Int) >>= fun j =>
      if -(Nat.pow 2 63 : Int) ≤ j && j < Nat.pow 2 63 then pure (Int64.ofInt j) else failure) =
        pure i
  have power : ((Nat.pow 2 63 : Nat) : Int) = 2 ^ 63 := rfl
  rw [R.follow_eq, pure_bind, R.integer_eq (by omega) (by omega)]
  refine (if_pos ?_).trans (congrArg pure (Int64.ofInt_toInt i))
  simp only [power, Bool.and_eq_true, decide_eq_true_eq]
  omega

theorem natural_read (R : Rendering ν) {β : Type} (of : Nat → β) {n bits : Nat}
    (small : n < Nat.pow 2 bits) (word : bits ≤ 63) :
    (R.source.follow (R.render (.integer n)) >>= fun v =>
      (liftM (R.source.natural? v) : Reading Nat) >>= fun m =>
        if m < Nat.pow 2 bits then pure (of m) else failure) = pure (of n) := by
  have fits : n < 2 ^ 63 := Nat.lt_of_lt_of_le small (Nat.pow_le_pow_right (by decide) word)
  rw [R.follow_eq, pure_bind, R.natural_eq fits]
  exact if_pos small

@[simp] theorem faithful_word16 : Codec.word16.Faithful := by
  refine ⟨fun R n => ?_⟩
  exact (natural_read R UInt16.ofNat n.toNat_lt (by decide)).trans
    (congrArg pure UInt16.ofNat_toNat)

@[simp] theorem faithful_word32 : Codec.word32.Faithful := by
  refine ⟨fun R n => ?_⟩
  exact (natural_read R UInt32.ofNat n.toNat_lt (by decide)).trans
    (congrArg pure UInt32.ofNat_toNat)

theorem steady_number : Codec.number.Steady ∧
    ∀ {ν : Type} (R : Rendering ν) d, Codec.number.again R d = R.number? d := by
  refine steady_of fun R d => ?_
  change (R.source.follow (R.render (.number d)) >>= fun v => liftM (R.source.number? v)) = _
  rw [R.follow_eq, pure_bind]
  rfl

@[simp] theorem faithful_optional (present : c.Present) (faithful : c.Faithful) :
    (Codec.optional c).Faithful := by
  refine ⟨fun R a => ?_⟩
  cases a with
  | none =>
    change (R.source.follow (R.render .null) >>= fun v =>
      (liftM (R.source.unset? v) : Reading Bool) >>= fun unset =>
        if unset then pure none else do return some (← c.read R.source v)) = pure none
    rw [R.follow_eq, pure_bind, R.unset_null]
    rfl
  | some a =>
    change (R.source.follow (R.render (c.write a)) >>= fun v =>
      (liftM (R.source.unset? v) : Reading Bool) >>= fun unset =>
        if unset then pure none else do return some (← c.read R.source v)) = pure (some a)
    rw [R.follow_eq, pure_bind, present.unset]
    change (c.read R.source (R.render (c.write a)) >>= fun b => pure (some b)) = pure (some a)
    rw [faithful.reads]
    rfl

theorem mapM_read (steady : c.Steady) (R : Rendering ν) (items : List α) :
    (items.map fun a => R.render (c.write a)).mapM (c.read R.source) =
      Reading.of (items.mapM (c.again R)) := by
  induction items with
  | nil => rfl
  | cons a rest ih =>
    rw [List.map_cons, List.mapM_cons, List.mapM_cons, steady.reads, ih]
    cases c.again R a with
    | none => rfl
    | some b => cases rest.mapM (c.again R) <;> rfl

theorem steady_list (steady : c.Steady) : (Codec.list c).Steady ∧
    ∀ {ν : Type} (R : Rendering ν) items, (Codec.list c).again R items =
      items.mapM (c.again R) := by
  refine steady_of fun R items => ?_
  change (R.source.follow (R.render (.list (items.map c.write))) >>= fun v =>
    (liftM (R.source.items? v) : Reading _) >>= fun vs => vs.mapM (c.read R.source)) = _
  rw [R.follow_eq, pure_bind, R.items_eq, List.map_map]
  exact mapM_read steady R items

@[simp] theorem faithful_list (faithful : c.Faithful) : (Codec.list c).Faithful := by
  obtain ⟨steady, become⟩ := steady_list faithful.steady
  refine faithful_of steady fun R items => ?_
  rw [become]
  induction items with
  | nil => rfl
  | cons a rest ih =>
    rw [List.mapM_cons, faithful.again, ih]
    rfl

end Codec

namespace Table

variable {α : Type}

/-- The table of what becomes of the values, if each of them becomes one. -/
def become? (become : α → Option α) (t : Table α) : Option (Table α) :=
  (t.entries.mapM fun e => (become e.2).map fun b => (e.1, b)).map Table.ofList

theorem insertEntry_concat {name : String} {value : α} {entries : List (String × α)}
    (greater : ∀ e ∈ entries, e.1 < name) :
    insertEntry name value entries = entries ++ [(name, value)] := by
  induction entries with
  | nil => rfl
  | cons head rest ih =>
    obtain ⟨less, later⟩ := List.forall_mem_cons.mp greater
    have notLess : ¬ name < head.1 := String.lt_asymm less
    have other : name ≠ head.1 := fun same => String.lt_irrefl _ (same ▸ less)
    rw [insertEntry, if_neg notLess, if_neg other, ih later]
    rfl

theorem entries_ofList {entries : List (String × α)} (increasing : Increasing entries) :
    (Table.ofList entries).entries = entries := by
  have inserted : ∀ (rest : List (String × α)) (t : Table α), Increasing (t.entries ++ rest) →
      (rest.foldl (fun t e => t.insert e.1 e.2) t).entries = t.entries ++ rest := by
    intro rest
    induction rest with
    | nil => exact fun t _ => (List.append_nil _).symm
    | cons e rest ih =>
      intro t increasing
      have next : (t.insert e.1 e.2).entries = t.entries ++ [e] :=
        insertEntry_concat fun other member =>
          (List.pairwise_append.mp increasing).2.2 other member e List.mem_cons_self
      rw [List.foldl_cons, ih, next, List.append_assoc, List.singleton_append]
      rw [next, List.append_assoc, List.singleton_append]
      exact increasing
  exact inserted entries empty increasing

theorem ext_entries {t u : Table α} (same : t.entries = u.entries) : t = u := by
  cases t
  cases u
  cases same
  rfl

theorem ofList_entries (t : Table α) : Table.ofList t.entries = t :=
  ext_entries (entries_ofList t.increasing)

/-- What a table becomes has the same names, with what the values become. -/
theorem become?_eq_some_iff {become : α → Option α} {t u : Table α} : t.become? become = some u ↔
    List.Forall₂ (fun a b => a.1 = b.1 ∧ become a.2 = some b.2) t.entries u.entries := by
  have each : ∀ a b : String × α, (become a.2).map (fun v => (a.1, v)) = some b ↔
      a.1 = b.1 ∧ become a.2 = some b.2 := by
    intro a b
    rw [Option.map_eq_some_iff]
    constructor
    · rintro ⟨v, same, rfl⟩
      exact ⟨rfl, same⟩
    · rintro ⟨name, same⟩
      exact ⟨b.2, same, Prod.ext name rfl⟩
  rw [become?, Option.map_eq_some_iff]
  simp only [mapM_eq_some_iff, each]
  constructor
  · rintro ⟨entries, became, rfl⟩
    have names : t.entries.map Prod.fst = entries.map Prod.fst := by
      rw [← List.forall₂_eq_eq_eq, List.forall₂_map_left_iff, List.forall₂_map_right_iff]
      exact became.imp fun _ _ same => same.1
    have increasing : Increasing entries := by
      rw [Increasing, ← List.pairwise_map (f := Prod.fst), ← names, List.pairwise_map]
      exact t.increasing
    rw [entries_ofList increasing]
    exact became
  · intro became
    exact ⟨u.entries, became, ofList_entries u⟩

end Table

namespace Codec

variable {α : Type} {c : Codec α}

theorem steady_table (steady : c.Steady) : (Codec.table c).Steady ∧
    ∀ {ν : Type} (R : Rendering ν) t, (Codec.table c).again R t = t.become? (c.again R) := by
  refine steady_of fun R t => ?_
  have valued : ∀ entries : List (String × α),
      ((entries.map fun e => (e.1, R.render (c.write e.2))).mapM fun e =>
        do return (e.1, ← c.read R.source e.2)) =
        Reading.of (entries.mapM fun e => (c.again R e.2).map fun b => (e.1, b)) := by
    intro entries
    induction entries with
    | nil => rfl
    | cons head rest ih =>
      rw [List.map_cons, List.mapM_cons, List.mapM_cons, ih, steady.reads]
      cases c.again R head.2 with
      | none => rfl
      | some b => cases rest.mapM fun e => (c.again R e.2).map fun b => (e.1, b) <;> rfl
  change (R.source.readMembers (R.render (.record (t.entries.map fun e => (e.1, c.write e.2)))) >>=
    fun members => (members.mapM fun e => do return (e.1, ← c.read R.source e.2)) >>=
      fun entries => pure (Table.ofList entries)) = _
  rw [R.readMembers_eq, pure_bind, List.map_map]
  change ((t.entries.map fun e => (e.1, R.render (c.write e.2))).mapM (fun e =>
    do return (e.1, ← c.read R.source e.2)) >>= fun entries => pure (Table.ofList entries)) = _
  rw [valued, Table.become?]
  cases t.entries.mapM fun e => (c.again R e.2).map fun b => (e.1, b) <;> rfl

end Codec

namespace Layout

variable {ρ ν : Type} (R : Rendering ν)

def omits (r : ρ) (f : Field ρ) : Bool := f.sparse && f.codec.isUnset (f.get r)

def written (r : ρ) (fields : List (Field ρ)) : List (String × Document) :=
  fields.filterMap fun f => if omits r f then none else some (f.name, f.codec.write (f.get r))

/-- Sets the fields that are written of a record to what their values become. -/
def refill (R : Rendering ν) (r : ρ) : List (Field ρ) → ρ → Option ρ
  | [], filled => some filled
  | f :: rest, filled =>
    if omits r f then refill R r rest filled
    else (f.codec.again R (f.get r)).bind fun v => refill R r rest (f.set filled v)

theorem refill_append (r : ρ) (front back : List (Field ρ)) (filled : ρ) :
    refill R r (front ++ back) filled = (refill R r front filled).bind (refill R r back) := by
  induction front generalizing filled with
  | nil => rfl
  | cons f rest ih =>
    rw [List.cons_append, refill, refill]
    split
    · exact ih filled
    · cases f.codec.again R (f.get r) with
      | none => rfl
      | some v => exact ih (f.set filled v)

/-- A field that may be left open, and is left out then, is taken over. -/
theorem refill_optional {α : Type} {c : Codec α} (faithful : (Codec.optional c).Faithful)
    {name : String} {get : ρ → Option α} {set : ρ → Option α → ρ} {r filled : ρ}
    {rest : List (Field ρ)} (blank : get r = none → set filled (get r) = filled) :
    refill R r (.sparseOf (.optional c) name get set :: rest) filled =
      refill R r rest (set filled (get r)) := by
  have omitted : omits r (.sparseOf (.optional c) name get set) = (get r).isNone := rfl
  rw [refill, omitted]
  split
  · rename_i unset
    rw [blank (Option.isNone_iff_eq_none.mp unset)]
  · exact congrArg (Option.bind · _) (faithful.again R (get r))

/-- A layout in which fields may be missing, have names of their own, and are read as written. -/
structure Orderly (layout : Layout ρ) : Prop where
  lax : layout.strict = false
  named : (layout.fields.map (·.name)).Nodup
  steady : ∀ f ∈ layout.fields, f.codec.Steady

theorem find?_name {fields : List (Field ρ)} (named : (fields.map (·.name)).Nodup) {f : Field ρ}
    (member : f ∈ fields) : fields.find? (·.name == f.name) = some f := by
  induction fields with
  | nil => cases member
  | cons g rest ih =>
    rw [List.map_cons, List.nodup_cons] at named
    rcases List.mem_cons.mp member with rfl | later
    · exact List.find?_cons_of_pos (beq_self_eq_true f.name)
    · have other : (g.name == f.name) = false := by
        rw [beq_eq_false_iff_ne]
        intro same
        exact named.1 (List.mem_map.mpr ⟨f, later, same.symm⟩)
      rw [List.find?_cons_of_neg (by rw [other]; exact Bool.false_ne_true)]
      exact ih named.2 later

/-- Members that were written for fields, each of a name that was not given before, are read back
into those fields. -/
theorem readMembers_written {layout : Layout ρ} (r : ρ) {fields : List (Field ρ)}
    (known : ∀ f ∈ fields, layout.field? f.name = some f) (named : (fields.map (·.name)).Nodup)
    (steady : ∀ f ∈ fields, f.codec.Steady) {given : List String}
    (fresh : ∀ f ∈ fields, f.name ∉ given) (filled : ρ) :
    (layout.readMembers R.source ((written r fields).map fun (name, d) => (name, R.render d)) given
      filled >>= fun p => pure p.2) = Reading.of (refill R r fields filled) := by
  induction fields generalizing given filled with
  | nil => rfl
  | cons f rest ih =>
    obtain ⟨knownFirst, knownRest⟩ := List.forall_mem_cons.mp known
    obtain ⟨steadyFirst, steadyRest⟩ := List.forall_mem_cons.mp steady
    obtain ⟨freshFirst, freshRest⟩ := List.forall_mem_cons.mp fresh
    rw [List.map_cons, List.nodup_cons] at named
    cases left : omits r f with
    | true =>
      have skipped : written r (f :: rest) = written r rest :=
        List.filterMap_cons_none (by rw [left]; rfl)
      rw [skipped, refill, left]
      exact ih knownRest named.2 steadyRest freshRest filled
    | false =>
      have first : written r (f :: rest) = (f.name, f.codec.write (f.get r)) :: written r rest :=
        List.filterMap_cons_some (by rw [left]; rfl)
      have again : ∀ g ∈ rest, g.name ∉ f.name :: given := by
        intro g member same
        rcases List.mem_cons.mp same with equal | before
        · exact named.1 (List.mem_map.mpr ⟨g, member, equal⟩)
        · exact freshRest g member before
      have unseen : given.contains f.name = false := by
        rw [List.contains_eq_mem, decide_eq_false_iff_not]
        exact freshFirst
      rw [first, List.map_cons, readMembers, knownFirst, refill, left]
      simp only [unseen, Bool.false_eq_true, if_false]
      rw [assign, steadyFirst.reads]
      cases f.codec.again R (f.get r) with
      | none => rfl
      | some v => exact ih knownRest named.2 steadyRest again (f.set filled v)

end Layout

namespace Codec

variable {ρ : Type} {layout : Layout ρ}

/-- A record becomes what its fields become. -/
theorem steady_record (orderly : layout.Orderly) : (Codec.record layout).Steady ∧
    ∀ {ν : Type} (R : Rendering ν) r,
      (Codec.record layout).again R r = Layout.refill R r layout.fields layout.blank := by
  refine steady_of fun R r => ?_
  have filled : (layout.readMembers R.source
      ((Layout.written r layout.fields).map fun (name, d) => (name, R.render d)) [] layout.blank >>=
        fun p => pure p.2) = Reading.of (Layout.refill R r layout.fields layout.blank) :=
    Layout.readMembers_written R r (fun f member => Layout.find?_name orderly.named member)
      orderly.named orderly.steady (fun f _ => List.not_mem_nil) layout.blank
  change layout.read R.source (R.render (.record (Layout.written r layout.fields))) = _
  rw [← filled, Layout.read, R.positions_eq]
  change (R.source.readMembers _ >>= fun members =>
    layout.readMembers R.source members [] layout.blank >>= fun p =>
      if layout.strict && p.1.length != layout.fields.length then failure else pure p.2) = _
  rw [R.readMembers_eq, pure_bind, orderly.lax]
  rfl

@[simp] theorem present_record : (Codec.record layout).Present :=
  ⟨fun R _ => R.unset_record _⟩

end Codec

namespace Layout

variable {ρ ν : Type}

/-- Setting the fields of a blank record to those of another one gives the other one, also if what
it omits is left as it is. -/
def Fills (r : ρ) : List (Field ρ) → ρ → Prop
  | [], filled => filled = r
  | f :: rest, filled =>
    (omits r f = true → f.set filled (f.get r) = filled) ∧ Fills r rest (f.set filled (f.get r))

theorem refill_eq {r : ρ} {fields : List (Field ρ)} {filled : ρ} (fills : Fills r fields filled)
    (faithful : ∀ f ∈ fields, f.codec.Faithful) (R : Rendering ν) :
    refill R r fields filled = some r := by
  induction fields generalizing filled with
  | nil => exact congrArg some fills
  | cons f rest ih =>
    obtain ⟨first, later⟩ := List.forall_mem_cons.mp faithful
    obtain ⟨skipped, fills⟩ := fills
    rw [refill]
    split
    · rename_i left
      rw [skipped left] at fills
      exact ih fills later
    · rw [first.again]
      exact ih fills later

/-- A layout whose records are read as they were written. -/
structure Lossless (layout : Layout ρ) : Prop where
  lax : layout.strict = false
  named : (layout.fields.map (·.name)).Nodup
  faithful : ∀ f ∈ layout.fields, f.codec.Faithful
  fills : ∀ r, Fills r layout.fields layout.blank

theorem Lossless.faithful_record {layout : Layout ρ} (lossless : layout.Lossless) :
    (Codec.record layout).Faithful := by
  obtain ⟨steady, becomes⟩ := Codec.steady_record
    ⟨lossless.lax, lossless.named, fun f member => (lossless.faithful f member).steady⟩
  refine Codec.faithful_of steady fun R r => ?_
  rw [becomes]
  exact refill_eq (lossless.fills r) lossless.faithful R

end Layout
end ClusterConf
