import ClusterConf.Proofs.CompactTexts
import ClusterConf.Proofs.SnapshotReading
set_option autoImplicit false

/-!
The documents that typed values are written as. Main statements: a record is known by its document,
as the names of its fields are all different and each field is known by what is written of it, and
a record whose numbers are finite has a legible document.
-/
namespace ClusterConf

open Document (Legible)

namespace Codec

variable {α : Type} {c : Codec α}

/-- Values are known by their documents if they are read as they were written. -/
theorem Faithful.injective (faithful : c.Faithful) : Function.Injective c.write := by
  intro a b same
  have answers : c.again Json.rendering a = c.again Json.rendering b := by
    rw [Codec.again, same, Codec.again]
  rw [faithful.again, faithful.again] at answers
  exact Option.some.inj answers

theorem injective_number : Function.Injective number.write :=
  fun _ _ same => Document.number.inj same

theorem injective_list (injective : Function.Injective c.write) :
    Function.Injective (list c).write :=
  fun _ _ same => injective.list_map (Document.list.inj same)

theorem injective_table (injective : Function.Injective c.write) :
    Function.Injective (table c).write := by
  intro t u same
  have entries : t.entries.map (Prod.map id c.write) = u.entries.map (Prod.map id c.write) :=
    Document.record.inj same
  exact Table.ext_entries ((Function.injective_id.prodMap injective).list_map entries)

/-- All values have legible documents. -/
def Legible (c : Codec α) : Prop := ∀ a, (c.write a).Legible

@[simp] theorem legible_text : text.Legible := Document.Legible.text

@[simp] theorem legible_flag : flag.Legible := Document.Legible.flag

@[simp] theorem legible_int64 : int64.Legible := fun i => .integer i.toInt

@[simp] theorem legible_word16 : word16.Legible := fun n => .integer n.toNat

@[simp] theorem legible_optional (legible : c.Legible) : (optional c).Legible
  | none => .null
  | some a => legible a

theorem legible_write_list {items : List α} (each : ∀ a ∈ items, (c.write a).Legible) :
    ((list c).write items).Legible :=
  .list (List.forall_mem_map.mpr each)

@[simp] theorem legible_list (legible : c.Legible) : (list c).Legible :=
  fun _ => legible_write_list fun a _ => legible a

theorem legible_write_table {t : Table α} (each : ∀ e ∈ t.entries, (c.write e.2).Legible) :
    ((table c).write t).Legible :=
  .record (List.forall_mem_map.mpr each)

@[simp] theorem legible_table (legible : c.Legible) : (table c).Legible :=
  fun _ => legible_write_table fun e _ => legible e.2

end Codec

namespace Layout

variable {ρ : Type}

theorem mem_written_iff {r : ρ} {fields : List (Field ρ)} {m : String × Document} :
    m ∈ written r fields ↔
      ∃ f ∈ fields, omits r f = false ∧ m = (f.name, f.codec.write (f.get r)) := by
  rw [written, List.mem_filterMap]
  refine exists_congr fun f => and_congr_right fun _ => ?_
  cases omits r f <;> simp [eq_comm]

theorem legible_write {layout : Layout ρ} {r : ρ}
    (each : ∀ f ∈ layout.fields, (f.codec.write (f.get r)).Legible) :
    (layout.write r).Legible := by
  refine .record fun m member => ?_
  obtain ⟨f, inside, -, rfl⟩ := mem_written_iff.mp member
  exact each f inside

/-- A layout whose records are known by their documents but for what no field gets. -/
structure Telling (layout : Layout ρ) : Prop where
  named : (layout.fields.map (·.name)).Nodup
  injective : ∀ f ∈ layout.fields, Function.Injective f.codec.write
  /-- A field is left out for one value only. -/
  unset : ∀ f ∈ layout.fields, f.sparse = true → ∀ a b, f.codec.isUnset a = true →
    f.codec.isUnset b = true → a = b

theorem get_eq_of_written {r q : ρ} {fields : List (Field ρ)}
    (named : (fields.map (·.name)).Nodup)
    (injective : ∀ f ∈ fields, Function.Injective f.codec.write)
    (unset : ∀ f ∈ fields, f.sparse = true → ∀ a b, f.codec.isUnset a = true →
      f.codec.isUnset b = true → a = b)
    (same : written r fields = written q fields) : ∀ f ∈ fields, f.get r = f.get q := by
  induction fields with
  | nil => exact fun f member => nomatch member
  | cons f rest ih =>
    obtain ⟨fresh, namedRest⟩ := List.nodup_cons.mp named
    obtain ⟨tells, injectiveRest⟩ := List.forall_mem_cons.mp injective
    obtain ⟨once, unsetRest⟩ := List.forall_mem_cons.mp unset
    have onward := ih namedRest injectiveRest unsetRest
    have first : ∀ s : ρ, omits s f = false →
        written s (f :: rest) = (f.name, f.codec.write (f.get s)) :: written s rest :=
      fun s kept => List.filterMap_cons_some (by rw [kept]; rfl)
    have later : ∀ s : ρ, omits s f = true → written s (f :: rest) = written s rest :=
      fun s left => List.filterMap_cons_none (by rw [left]; rfl)
    -- What is left out of one record only has a name that the other members lack.
    have other : ∀ (s : ρ) (d : Document) (ms : List (String × Document)),
        written s rest ≠ (f.name, d) :: ms := by
      intro s d ms equal
      have inside : (f.name, d) ∈ written s rest := equal ▸ List.mem_cons_self
      obtain ⟨g, among, -, named⟩ := mem_written_iff.mp inside
      exact fresh (List.mem_map.mpr ⟨g, among, (congrArg Prod.fst named).symm⟩)
    cases left : omits r f <;> cases left' : omits q f
    · rw [first r left, first q left', List.cons.injEq, Prod.mk.injEq] at same
      exact List.forall_mem_cons.mpr ⟨tells same.1.2, onward same.2⟩
    · rw [first r left, later q left'] at same
      exact absurd same.symm (other q _ _)
    · rw [later r left, first q left'] at same
      exact absurd same (other r _ _)
    · rw [later r left, later q left'] at same
      obtain ⟨sparse, none⟩ := Bool.and_eq_true_iff.mp left
      obtain ⟨-, none'⟩ := Bool.and_eq_true_iff.mp left'
      exact List.forall_mem_cons.mpr ⟨once sparse _ _ none none', onward same⟩

theorem Telling.get_eq {layout : Layout ρ} (telling : layout.Telling) {r q : ρ}
    (same : layout.write r = layout.write q) : ∀ f ∈ layout.fields, f.get r = f.get q :=
  get_eq_of_written telling.named telling.injective telling.unset (Document.record.inj same)

end Layout

theorem Codec.legible_record {ρ : Type} {layout : Layout ρ}
    (each : ∀ f ∈ layout.fields, f.codec.Legible) : (record layout).Legible :=
  fun r => Layout.legible_write fun f member => each f member (f.get r)

theorem Environment.legible : (Codec.record layout).Legible :=
  Codec.legible_record (by simp [layout, Field.of])

theorem GlobalConfig.legible : (Codec.record layout).Legible :=
  Codec.legible_record (by simp [layout, Field.of])

namespace ExecHost

/-- Execution hosts are known by their documents. -/
theorem injective_write : Function.Injective (Codec.record layout).write := by
  have texts := (Codec.faithful_list Codec.faithful_text).injective
  have values := (Codec.faithful_table Codec.faithful_text).injective
  have numbers := Codec.injective_table Codec.injective_number
  have telling : layout.Telling := by
    refine ⟨by decide +kernel, ?_, ?_⟩
    · simp [layout, Field.of, Codec.faithful_text.injective, texts, values, numbers]
    · simp [layout, Field.of]
  intro h g same
  have fields := telling.get_eq same
  simp only [layout, Field.of, List.forall_mem_cons] at fields
  obtain ⟨name, load, usage, values, users, xusers, projects, xprojects, reports, -⟩ := fields
  cases h
  cases g
  simp_all

theorem legible_write {h : ExecHost} (finite : ∀ d ∈ h.numbers, d.isFinite = true) :
    ((Codec.record layout).write h).Legible := by
  have numbers : ∀ t : Table Double, (∀ e ∈ t.entries, e.2.isFinite = true) →
      ((Codec.table .number).write t).Legible :=
    fun t each => Codec.legible_write_table fun e member => .number (each e member)
  have factors := List.forall_mem_append.mp (List.forall_mem_map.mp finite)
  have texts := Codec.legible_list Codec.legible_text
  have values := Codec.legible_table Codec.legible_text
  refine Layout.legible_write ?_
  simp [layout, Field.of, Codec.legible_text _, texts _, values _, numbers _ factors.1,
    numbers _ factors.2]

end ExecHost

namespace Kind

/-- Records of every kind are known by their documents. -/
theorem injective_write (k : Kind) : Function.Injective k.codec.write := by
  by_cases host : k = .execHost
  · subst host
    exact ExecHost.injective_write
  · exact (faithful_codec host).injective

theorem legible_codec {k : Kind} (other : k ≠ .execHost) : k.codec.Legible := by
  cases k with
  | userSetList => exact Codec.legible_record (by simp [UserSet.layout, Field.of])
  | project => exact Codec.legible_record (by simp [Project.layout, Field.of])
  | user => exact Codec.legible_record (by simp [User.layout, Field.of])
  | hostConfiguration =>
    exact Codec.legible_record (by simp [HostConfig.layout, Field.of, Field.sparseOf])
  | hostGroup => exact Codec.legible_record (by simp [HostGroup.layout, Field.of])
  | execHost => exact absurd rfl other
  | complexEntry => exact Codec.legible_record (by simp [ComplexEntry.layout, Field.of])
  | calendar => exact Codec.legible_record (by simp [Calendar.layout, Field.of])
  | ckptInterface => exact Codec.legible_record (by simp [CheckpointInterface.layout, Field.of])
  | resourceQuotaSet => exact Codec.legible_record (by simp [QuotaSet.layout, Field.of])
  | parallelEnvironment => exact Codec.legible_record (by simp [ParallelEnv.layout, Field.of])
  | clusterQueue => exact Codec.legible_record (by simp [Queue.layout, Field.of])
  | manager | operator | adminHost | submitHost => exact Codec.legible_text

end Kind

namespace Snapshot

theorem telling_layout : Snapshot.layout.Telling where
  named := orderly_layout.named
  injective := by
    have environment := (Codec.faithful_optional Codec.present_record
      Environment.lossless.faithful_record).injective
    have globalConfig := (Codec.faithful_optional Codec.present_record
      GlobalConfig.lossless.faithful_record).injective
    have collection : ∀ k : Kind, Function.Injective (Codec.list k.codec).write :=
      fun k => Codec.injective_list k.injective_write
    simp [layout, Field.of, Field.sparseOf, environment, globalConfig, collection]
  unset := by
    have left : ∀ {α : Type} (c : Codec α) (a b : Option α), (Codec.optional c).isUnset a = true →
        (Codec.optional c).isUnset b = true → a = b := by
      intro α c a b none none'
      rw [Option.isNone_iff_eq_none.mp none, Option.isNone_iff_eq_none.mp none']
    simp only [layout, Field.of, Field.sparseOf, List.cons_append, List.nil_append,
      List.forall_mem_cons]
    refine ⟨fun _ => left _, fun _ => left _, ?_⟩
    simp

theorem injective_toDocument : Function.Injective toDocument := by
  intro s t same
  have fields := telling_layout.get_eq same
  refine ext_records (fields _ List.mem_cons_self)
    (fields _ (List.mem_cons_of_mem _ List.mem_cons_self)) fun k => ?_
  have inside : collectionField k ∈ layout.fields := by
    cases k <;> simp [layout, collectionField]
  exact fields _ inside

theorem legible_toDocument {s : Snapshot} (finite : ∀ d ∈ s.numbers, d.isFinite = true) :
    s.toDocument.Legible := by
  have collection : ∀ k : Kind, ((Codec.list k.codec).write (s.records k)).Legible := by
    intro k
    by_cases host : k = .execHost
    · subst host
      exact Codec.legible_write_list fun h member =>
        ExecHost.legible_write (List.forall_mem_flatMap.mp finite h member)
    · exact Codec.legible_list (Kind.legible_codec host) _
  have environment := Codec.legible_optional Environment.legible
  have globalConfig := Codec.legible_optional GlobalConfig.legible
  refine Layout.legible_write ?_
  simp [layout, Field.of, Field.sparseOf, environment _, globalConfig _, collection]

end Snapshot
end ClusterConf
