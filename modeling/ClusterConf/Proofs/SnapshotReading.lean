import ClusterConf.Cluster.SnapshotText
import ClusterConf.Proofs.CodecLaws
set_option autoImplicit false

/-!
What snapshots become when they are kept in a text format and read again. Main statements: a
snapshot becomes itself but for the numbers of its execution hosts, which become what the format
makes of them; in JSON these are what their own texts are read as, so that a snapshot becomes
itself exactly if each of them does, and nothing if one of them is not finite.
-/
namespace ClusterConf

open Layout (Lossless)

theorem UserSet.lossless : Lossless layout where
  lax := rfl
  named := by simp [layout, Field.of]
  faithful := by simp [layout, Field.of]
  fills := by simp [layout, Layout.Fills, Layout.omits, Field.of]

theorem Project.lossless : Lossless layout where
  lax := rfl
  named := by simp [layout, Field.of]
  faithful := by simp [layout, Field.of]
  fills := by simp [layout, Layout.Fills, Layout.omits, Field.of]

theorem User.lossless : Lossless layout where
  lax := rfl
  named := by simp [layout, Field.of]
  faithful := by simp [layout, Field.of]
  fills := by simp [layout, Layout.Fills, Layout.omits, Field.of]

theorem HostConfig.lossless : Lossless layout where
  lax := rfl
  named := by simp [layout, Field.of, Field.sparseOf]
  faithful := by simp [layout, Field.of, Field.sparseOf]
  fills := by
    simp [layout, Layout.Fills, Layout.omits, Field.of, Field.sparseOf, Codec.optional, Codec.list]

theorem HostGroup.lossless : Lossless layout where
  lax := rfl
  named := by simp [layout, Field.of]
  faithful := by simp [layout, Field.of]
  fills := by simp [layout, Layout.Fills, Layout.omits, Field.of]

theorem ComplexEntry.lossless : Lossless layout where
  lax := rfl
  named := by simp [layout, Field.of]
  faithful := by simp [layout, Field.of]
  fills := by simp [layout, Layout.Fills, Layout.omits, Field.of]

theorem Calendar.lossless : Lossless layout where
  lax := rfl
  named := by simp [layout, Field.of]
  faithful := by simp [layout, Field.of]
  fills := by simp [layout, Layout.Fills, Layout.omits, Field.of]

theorem CheckpointInterface.lossless : Lossless layout where
  lax := rfl
  named := by simp [layout, Field.of]
  faithful := by simp [layout, Field.of]
  fills := by simp [layout, Layout.Fills, Layout.omits, Field.of]

theorem QuotaSet.lossless : Lossless layout where
  lax := rfl
  named := by simp [layout, Field.of]
  faithful := by simp [layout, Field.of]
  fills := by simp [layout, Layout.Fills, Layout.omits, Field.of]

theorem ParallelEnv.lossless : Lossless layout where
  lax := rfl
  named := by simp [layout, Field.of]
  faithful := by simp [layout, Field.of]
  fills := by simp [layout, Layout.Fills, Layout.omits, Field.of]

theorem Queue.lossless : Lossless layout where
  lax := rfl
  named := by simp [layout, Field.of]
  faithful := by simp [layout, Field.of]
  fills := by simp [layout, Layout.Fills, Layout.omits, Field.of]

theorem Environment.lossless : Lossless layout where
  lax := rfl
  named := by simp [layout, Field.of]
  faithful := by simp [layout, Field.of]
  fills := by simp [layout, Layout.Fills, Layout.omits, Field.of]

theorem GlobalConfig.lossless : Lossless layout where
  lax := rfl
  named := by simp [layout, Field.of]
  faithful := by simp [layout, Field.of]
  fills := by simp [layout, Layout.Fills, Layout.omits, Field.of]

/-- What an execution host becomes if its scaling factors do. -/
def ExecHost.become? (number : Double → Option Double) (h : ExecHost) : Option ExecHost := do
  let load ← h.loadScaling.become? number
  let usage ← h.usageScaling.become? number
  return { h with loadScaling := load, usageScaling := usage }

abbrev ExecHost.again? (h : ExecHost) : Option ExecHost := h.become? Double.reread?

theorem Codec.faithful_table {α : Type} {c : Codec α} (faithful : c.Faithful) :
    (Codec.table c).Faithful := by
  obtain ⟨steady, becomes⟩ := Codec.steady_table faithful.steady
  refine Codec.faithful_of steady fun R t => ?_
  rw [becomes, Table.become?_eq_some_iff, List.forall₂_same]
  exact fun e _ => ⟨rfl, faithful.again R e.2⟩

theorem ExecHost.steady_record : (Codec.record ExecHost.layout).Steady ∧
    ∀ {ν : Type} (R : Rendering ν) h,
      (Codec.record ExecHost.layout).again R h = h.become? R.number? := by
  obtain ⟨steadyNumber, number⟩ := Codec.steady_number
  obtain ⟨steadyTable, table⟩ := Codec.steady_table steadyNumber
  have texts := Codec.faithful_list Codec.faithful_text
  have values := Codec.faithful_table Codec.faithful_text
  have orderly : ExecHost.layout.Orderly := by
    refine ⟨rfl, by decide +kernel, ?_⟩
    simp [layout, Field.of, Codec.faithful_text.steady, texts.steady, values.steady, steadyTable]
  obtain ⟨steady, becomes⟩ := Codec.steady_record orderly
  refine ⟨steady, fun R h => ?_⟩
  have factors : ∀ t, (Codec.table Codec.number).again R t = t.become? R.number? := by
    intro t
    rw [table, funext (number R)]
  rw [becomes, become?]
  simp [layout, Layout.refill, Layout.omits, Field.of, Codec.faithful_text.again, texts.again,
    values.again, factors]

namespace Kind

/-- Records of all kinds but one are read as they were written. -/
theorem faithful_codec {k : Kind} (other : k ≠ .execHost) : k.codec.Faithful := by
  cases k with
  | userSetList => exact UserSet.lossless.faithful_record
  | project => exact Project.lossless.faithful_record
  | user => exact User.lossless.faithful_record
  | hostConfiguration => exact HostConfig.lossless.faithful_record
  | hostGroup => exact HostGroup.lossless.faithful_record
  | execHost => exact absurd rfl other
  | complexEntry => exact ComplexEntry.lossless.faithful_record
  | calendar => exact Calendar.lossless.faithful_record
  | ckptInterface => exact CheckpointInterface.lossless.faithful_record
  | resourceQuotaSet => exact QuotaSet.lossless.faithful_record
  | parallelEnvironment => exact ParallelEnv.lossless.faithful_record
  | clusterQueue => exact Queue.lossless.faithful_record
  | manager | operator | adminHost | submitHost => exact Codec.faithful_text

theorem steady_codec (k : Kind) : k.codec.Steady := by
  by_cases host : k = .execHost
  · rw [host]
    exact ExecHost.steady_record.1
  · exact (faithful_codec host).steady

end Kind

namespace Snapshot

/-- What a snapshot becomes if the numbers of its execution hosts do; all else stays. -/
def become? (number : Double → Option Double) (s : Snapshot) : Option Snapshot :=
  (s.execHosts.mapM (ExecHost.become? number)).map fun hosts => { s with execHosts := hosts }

abbrev again? (s : Snapshot) : Option Snapshot := s.become? Double.reread?

theorem orderly_layout : Snapshot.layout.Orderly where
  lax := rfl
  named := by decide +kernel
  steady := by
    have environment := Codec.faithful_optional Codec.present_record
      Environment.lossless.faithful_record
    have globalConfig := Codec.faithful_optional Codec.present_record
      GlobalConfig.lossless.faithful_record
    have collection : ∀ k : Kind, (Codec.list k.codec).Steady := fun k =>
      (Codec.steady_list k.steady_codec).1
    simp [layout, Field.of, Field.sparseOf, environment.steady, globalConfig.steady, collection]

def collectionField (k : Kind) : Field Snapshot :=
  .of (.list k.codec) k.collection (·.records k) fun s v => s.withRecords k v

theorem refill_collections {ν : Type} (R : Rendering ν) (s : Snapshot) {kinds : List Kind}
    (others : .execHost ∉ kinds) (filled : Snapshot) :
    Layout.refill R s (kinds.map collectionField) filled =
      some (kinds.foldl (fun t k => t.withRecords k (s.records k)) filled) := by
  induction kinds generalizing filled with
  | nil => rfl
  | cons k rest ih =>
    obtain ⟨other, later⟩ := not_or.mp (mt List.mem_cons.mpr others)
    have same := (Codec.faithful_list (Kind.faithful_codec (Ne.symm other))).again R (s.records k)
    change ((Codec.list k.codec).again R (s.records k)).bind _ = _
    rw [same]
    exact ih later _

theorem refill_site {ν : Type} (R : Rendering ν) (s : Snapshot) :
    Layout.refill R s (layout.fields.take 2) .empty = some
      { Snapshot.empty with environment := s.environment, globalConfig := s.globalConfig } := by
  have environment := Codec.faithful_optional Codec.present_record
    Environment.lossless.faithful_record
  have globalConfig := Codec.faithful_optional Codec.present_record
    GlobalConfig.lossless.faithful_record
  refine (Layout.refill_optional R environment fun unset => ?_).trans
    (Layout.refill_optional R globalConfig fun unset => ?_)
  · rw [unset]
    rfl
  · rw [unset]
    rfl

theorem again_hosts {ν : Type} (R : Rendering ν) (hosts : List ExecHost) :
    (Codec.list (Kind.codec .execHost)).again R hosts =
      hosts.mapM (ExecHost.become? R.number?) := by
  rw [← funext (ExecHost.steady_record.2 R)]
  exact (Codec.steady_list ExecHost.steady_record.1).2 R hosts

theorem again_codec {ν : Type} (R : Rendering ν) (s : Snapshot) :
    codec.again R s = s.become? R.number? := by
  let before : List Kind := [.calendar, .complexEntry, .ckptInterface, .hostConfiguration]
  let behind : List Kind := [.adminHost, .submitHost, .hostGroup, .resourceQuotaSet, .manager,
    .operator, .parallelEnvironment, .project, .user, .clusterQueue, .userSetList]
  have fields : layout.fields = layout.fields.take 2 ++
      (before.map collectionField ++ collectionField .execHost :: behind.map collectionField) := rfl
  have blank : layout.blank = .empty := rfl
  have others : .execHost ∉ before := by decide
  have othersBehind : .execHost ∉ behind := by decide
  rw [codec, (Codec.steady_record orderly_layout).2, fields, blank, Layout.refill_append,
    refill_site, Option.bind_some, Layout.refill_append, refill_collections R s others,
    Option.bind_some]
  change ((Codec.list (Kind.codec .execHost)).again R s.execHosts).bind _ = _
  rw [again_hosts, become?]
  cases s.execHosts.mapM (ExecHost.become? R.number?) with
  | none => rfl
  | some hosts =>
    refine (refill_collections R s othersBehind _).trans (congrArg some ?_)
    simp only [before, behind, collectionField, Field.of, List.foldl_cons, List.foldl_nil,
      withRecords, records]

theorem steady_codec : codec.Steady := (Codec.steady_record orderly_layout).1

/-- A snapshot that was written in JSON is read as what it becomes. -/
theorem ofText?_toText (s : Snapshot) : ofText? .json (s.toText .json) = s.again? := by
  rw [ofText?, toText, Json.read?_pretty, again?, ← funext Json.number?_rendering]
  exact again_codec Json.rendering s

end Snapshot

def ExecHost.numbers (h : ExecHost) : List Double :=
  (h.loadScaling.entries ++ h.usageScaling.entries).map (·.2)

def Snapshot.numbers (s : Snapshot) : List Double := s.execHosts.flatMap ExecHost.numbers

namespace ExecHost

variable {number : Double → Option Double}

theorem become?_eq_some_iff {h g : ExecHost} : h.become? number = some g ↔
    ∃ load usage, h.loadScaling.become? number = some load ∧
      h.usageScaling.become? number = some usage ∧
      g = { h with loadScaling := load, usageScaling := usage } := by
  rw [become?]
  cases h.loadScaling.become? number with
  | none => simp
  | some load =>
    cases h.usageScaling.become? number with
    | none => simp
    | some usage => simp [eq_comm]

theorem name_of_become? {h g : ExecHost} (becomes : h.become? number = some g) :
    g.name = h.name := by
  obtain ⟨load, usage, -, -, rfl⟩ := become?_eq_some_iff.mp becomes
  rfl

/-- A host becomes itself if all its numbers do. -/
theorem become?_eq_self_iff {h : ExecHost} :
    h.become? number = some h ↔ ∀ d ∈ h.numbers, number d = some d := by
  have table : ∀ t : Table Double, t.become? number = some t ↔
      ∀ d ∈ t.entries.map (·.2), number d = some d := by
    intro t
    rw [Table.become?_eq_some_iff, List.forall₂_same, List.forall_mem_map]
    exact forall₂_congr fun e _ => ⟨fun same => same.2, fun same => ⟨rfl, same⟩⟩
  rw [numbers, List.map_append, List.forall_mem_append, ← table, ← table, become?_eq_some_iff]
  constructor
  · rintro ⟨load, usage, loads, uses, same⟩
    have first : h.loadScaling = load := congrArg loadScaling same
    have second : h.usageScaling = usage := congrArg usageScaling same
    exact ⟨loads.trans (congrArg some first.symm), uses.trans (congrArg some second.symm)⟩
  · rintro ⟨loads, uses⟩
    exact ⟨_, _, loads, uses, rfl⟩

/-- A host becomes nothing if one of its numbers does not become a number. -/
theorem become?_of_lost {h : ExecHost} {d : Double} (member : d ∈ h.numbers)
    (lost : number d = none) : h.become? number = none := by
  have kept : ∀ {t u : Table Double}, t.become? number = some u →
      d ∉ t.entries.map (·.2) := by
    intro t u becomes inside
    obtain ⟨e, there, rfl⟩ := List.mem_map.mp inside
    obtain ⟨b, -, same⟩ := forall₂_left (Table.become?_eq_some_iff.mp becomes) e there
    rw [lost] at same
    cases same
  rw [Option.eq_none_iff_forall_ne_some]
  intro g becomes
  obtain ⟨load, usage, loads, uses, -⟩ := become?_eq_some_iff.mp becomes
  rw [numbers, List.map_append, List.mem_append] at member
  exact member.elim (kept loads) (kept uses)

end ExecHost

namespace Snapshot

variable {number : Double → Option Double} {s t : Snapshot}

theorem become?_eq_some_iff : s.become? number = some t ↔ ∃ hosts,
    List.Forall₂ (fun h g => h.become? number = some g) s.execHosts hosts ∧
      t = { s with execHosts := hosts } := by
  rw [become?, Option.map_eq_some_iff]
  exact exists_congr fun hosts => and_congr mapM_eq_some_iff eq_comm

/-- A snapshot becomes itself if all its numbers do. -/
theorem become?_eq_self_iff : s.become? number = some s ↔ ∀ d ∈ s.numbers, number d = some d := by
  have each : (∀ d ∈ s.numbers, number d = some d) ↔
      List.Forall₂ (fun h g => ExecHost.become? number h = some g) s.execHosts s.execHosts := by
    rw [numbers, List.forall_mem_flatMap, List.forall₂_same]
    exact forall₂_congr fun h _ => ExecHost.become?_eq_self_iff.symm
  rw [each, become?_eq_some_iff]
  constructor
  · rintro ⟨hosts, becomes, same⟩
    have equal : s.execHosts = hosts := congrArg execHosts same
    rwa [← equal] at becomes
  · exact fun becomes => ⟨s.execHosts, becomes, rfl⟩

/-- In JSON a snapshot becomes itself if all its numbers do. -/
theorem again?_eq_self_iff : s.again? = some s ↔ ∀ d ∈ s.numbers, d.reread? = some d :=
  become?_eq_self_iff

/-- A snapshot becomes nothing if one of its numbers does not become a number. -/
theorem again?_of_lost {d : Double} (member : d ∈ s.numbers) (lost : d.reread? = none) :
    s.again? = none := by
  rw [Option.eq_none_iff_forall_ne_some]
  intro t becomes
  obtain ⟨hosts, related, -⟩ := become?_eq_some_iff.mp becomes
  obtain ⟨h, there, inside⟩ := List.mem_flatMap.mp member
  obtain ⟨g, same⟩ := forall₂_left related h there
  rw [ExecHost.become?_of_lost inside lost] at same
  cases same

theorem records_of_again? (becomes : s.again? = some t) {k : Kind} (other : k ≠ .execHost) :
    t.records k = s.records k := by
  obtain ⟨hosts, -, rfl⟩ := become?_eq_some_iff.mp becomes
  cases k <;> first | rfl | exact absurd rfl other

/-- What a snapshot becomes has the same keys of all kinds. -/
theorem keys_of_again? (becomes : s.again? = some t) (k : Kind) : t.keys k = s.keys k := by
  by_cases host : k = .execHost
  · obtain ⟨hosts, related, rfl⟩ := become?_eq_some_iff.mp becomes
    rw [host]
    have names : s.execHosts.map ExecHost.name = hosts.map ExecHost.name := by
      rw [← List.forall₂_eq_eq_eq, List.forall₂_map_left_iff, List.forall₂_map_right_iff]
      exact related.imp fun _ _ same => (ExecHost.name_of_become? same).symm
    exact names.symm
  · rw [keys, keys, records_of_again? becomes host]

theorem globalConfig_of_again? (becomes : s.again? = some t) :
    t.globalConfig = s.globalConfig := by
  obtain ⟨hosts, -, rfl⟩ := become?_eq_some_iff.mp becomes
  rfl

end Snapshot

end ClusterConf
