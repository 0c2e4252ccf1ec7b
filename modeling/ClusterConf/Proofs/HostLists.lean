import ClusterConf.Proofs.ReferenceWarnings
set_option autoImplicit false

/-!
Host lists of queues, whose entries name hosts and groups of hosts. Main statement: a check looks
only into entries that begin with a group, and warns there of every name that is no known group;
these are the undefined groups of the list exactly if no undefined host stands in such an entry and
each undefined group stands in one.
-/
namespace ClusterConf.Validation

/-- A group is marked by its first character, and so is an entry that begins with one. -/
def Marked (text : String) : Prop := "@".toList <+: text.toList

instance (text : String) : Decidable (Marked text) :=
  inferInstanceAs (Decidable ("@".toList <+: text.toList))

/-- An entry of a host list with the names that it lists. -/
structure HostEntry where
  text : String
  names : List String
  listing : Listing names text.toList

/-- The names in a host list that a check warns of. -/
def warnedNames (s : Snapshot) (entries : List HostEntry) : List String :=
  (entries.filter fun e => decide (Marked e.text)).flatMap fun e =>
    dangling (s.keys .hostGroup) e.names

theorem undefinedWarning_injective (owner field : String) :
    Function.Injective (undefinedWarning owner field) := by
  intro name name' same
  have texts := congrArg String.toList same
  simp only [undefinedWarning, String.toList_append, List.append_cancel_right_eq,
    List.append_cancel_left_eq] at texts
  exact String.toList_inj.mp texts

theorem startsWith_eq_marked (text : String) : text.startsWith "@" = decide (Marked text) := by
  rw [Bool.eq_iff_iff, String.startsWith_string_iff, decide_eq_true_eq, Marked]

theorem hostListWarnings_eq {s : Snapshot} {q : Queue} {entries : List HostEntry}
    (written : q.hostList = entries.map HostEntry.text) :
    hostListWarnings s .clusterQueue q =
      (warnedNames s entries).map (undefinedWarning (owner .clusterQueue q) "hostlist") := by
  have looked : (hostListOf .clusterQueue q).filter (·.startsWith "@") =
      (entries.filter fun e => decide (Marked e.text)).map HostEntry.text := by
    rw [hostListOf, written, List.filter_map]
    simp only [startsWith_eq_marked, Function.comp_def]
  have listed : ∀ es : List HostEntry,
      Listed (es.flatMap HostEntry.names) (es.map HostEntry.text) := by
    intro es
    refine ⟨es.map HostEntry.names, rfl, ?_⟩
    rw [List.forall₂_map_left_iff, List.forall₂_map_right_iff, List.forall₂_same]
    exact fun e _ => .plain e.listing
  rw [hostListWarnings, looked, missing_of_listed (listed _), dangling, List.filter_flatMap]
  rfl

theorem mem_warnedNames {s : Snapshot} {entries : List HostEntry} {name : String} :
    name ∈ warnedNames s entries ↔
      ∃ e ∈ entries, Marked e.text ∧ name ∈ e.names ∧ ¬ IsNone name ∧ name ∉ s.keys .hostGroup := by
  simp only [warnedNames, dangling, List.mem_flatMap, List.mem_filter, decide_eq_true_eq, and_assoc]

theorem Marked.not_isNone {name : String} (marked : Marked name) : ¬ IsNone name := by
  obtain ⟨rest, split⟩ := marked
  intro none
  rw [IsNone, ← split] at none
  exact absurd (List.cons.inj none).1 (by decide)

/-- A host list whose entries are such that a check judges all of its names rightly. -/
structure Judged (known : List String) (entries : List HostEntry) : Prop where
  /-- Behind a group at the start of an entry there is no undefined host. -/
  hosts : ∀ e ∈ entries, Marked e.text → ∀ name ∈ e.names, name ∉ known →
    Marked name ∨ IsNone name
  /-- Each undefined group stands in an entry that begins with a group. -/
  groups : ∀ e ∈ entries, ∀ name ∈ e.names, Marked name → name ∉ known →
    ∃ e' ∈ entries, Marked e'.text ∧ name ∈ e'.names

theorem warnedNames_exact_iff {s : Snapshot} {entries : List HostEntry} :
    (∀ e ∈ entries, ∀ name ∈ e.names,
      (name ∈ warnedNames s entries ↔ Marked name ∧ name ∉ s.keys .hostGroup)) ↔
      Judged (s.keys .hostGroup) entries := by
  constructor
  · intro exact
    refine ⟨fun e member marked name inside unknown => ?_,
      fun e member name inside marked unknown => ?_⟩
    · by_contra neither
      obtain ⟨host, named⟩ := not_or.mp neither
      have warned := mem_warnedNames.mpr ⟨e, member, marked, inside, named, unknown⟩
      exact host ((exact e member name inside).mp warned).1
    · have warned := (exact e member name inside).mpr ⟨marked, unknown⟩
      obtain ⟨e', member', marked', inside', -⟩ := mem_warnedNames.mp warned
      exact ⟨e', member', marked', inside'⟩
  · intro judged e member name inside
    rw [mem_warnedNames]
    constructor
    · rintro ⟨e', member', marked', inside', named, unknown⟩
      exact ⟨(judged.hosts e' member' marked' name inside' unknown).resolve_right named, unknown⟩
    · rintro ⟨marked, unknown⟩
      obtain ⟨e', member', marked', inside'⟩ := judged.groups e member name inside marked unknown
      exact ⟨e', member', marked', inside', marked.not_isNone, unknown⟩

/--
Of the names in the host list of a queue a check warns, in order, of those in entries that begin
with a group, hosts included, that are no known group. These are the undefined groups of the queue
exactly if its entries are such that all names are judged rightly.
-/
theorem host_list_warned_iff (knownTypes : List String) {s : Snapshot} {q : Queue}
    (member : q ∈ s.clusterQueues) {entries : List HostEntry}
    (written : q.hostList = entries.map HostEntry.text) :
    hostListWarnings s .clusterQueue q <:+: (check knownTypes s).warnings ∧
    hostListWarnings s .clusterQueue q =
      (warnedNames s entries).map (undefinedWarning (owner .clusterQueue q) "hostlist") ∧
    ((∀ e ∈ entries, ∀ name ∈ e.names,
      (undefinedWarning (owner .clusterQueue q) "hostlist" name ∈
        hostListWarnings s .clusterQueue q ↔ Marked name ∧ name ∉ s.keys .hostGroup)) ↔
      Judged (s.keys .hostGroup) entries) := by
  refine ⟨?_, hostListWarnings_eq written, ?_⟩
  · have inRecord : hostListWarnings s .clusterQueue q <:+: warningsOf s .clusterQueue q := by
      rw [warningsOf_eq]
      exact (List.suffix_append _ _).isInfix
    have inKind : warningsOf s .clusterQueue q <:+:
        s.clusterQueues.flatMap (warningsOf s .clusterQueue) :=
      List.infix_of_mem_flatten (List.mem_map_of_mem member)
    have inAll : s.clusterQueues.flatMap (warningsOf s .clusterQueue) <:+:
        (check knownTypes s).warnings := by
      rw [warnings_eq, referringKinds, List.flatMap_cons]
      exact (List.prefix_append _ _).isInfix.trans (List.infix_append _ _ _)
    exact (inRecord.trans inKind).trans inAll
  · rw [hostListWarnings_eq written]
    simp only [List.mem_map_of_injective (undefinedWarning_injective _ _)]
    exact warnedNames_exact_iff

def grouped (hostList : List String) : Snapshot where
  hostGroups := [{ name := "@known", members := ["node1"] }]
  clusterQueues := [{ name := "all.q", hostList }]

theorem host_list_warned_iff_of_groups :
    let s := grouped ["@known, @lost", "node1 node2", "@lost"]
    let q : Queue := { name := "all.q", hostList := ["@known, @lost", "node1 node2", "@lost"] }
    let entries : List HostEntry := [⟨"@known, @lost", ["@known", "@lost"], by decide⟩,
      ⟨"node1 node2", ["node1", "node2"], by decide⟩, ⟨"@lost", ["@lost"], by decide⟩]
    q ∈ s.clusterQueues ∧ q.hostList = entries.map HostEntry.text ∧
      hostListWarnings s .clusterQueue q =
        ["cluster queue 'all.q'.hostlist: '@lost' is not defined in the snapshot",
          "cluster queue 'all.q'.hostlist: '@lost' is not defined in the snapshot"] ∧
      ∀ e ∈ entries, ∀ name ∈ e.names,
        (undefinedWarning (owner .clusterQueue q) "hostlist" name ∈
          hostListWarnings s .clusterQueue q ↔ Marked name ∧ name ∉ s.keys .hostGroup) := by
  intro s q entries
  have member : q ∈ s.clusterQueues := List.mem_cons_self
  have written : q.hostList = entries.map HostEntry.text := rfl
  obtain ⟨-, warned, exact⟩ := host_list_warned_iff [] member written
  refine ⟨member, written, warned.trans (by decide), exact.mpr ⟨?_, ?_⟩⟩
  · decide
  · decide

/-- An undefined group that stands behind a host is not warned of, and a host that stands behind a
group is. -/
theorem host_list_misjudged :
    let s := grouped ["@known node1", "node2,@lost"]
    Listing ["@known", "node1"] "@known node1".toList ∧
      Listing ["node2", "@lost"] "node2,@lost".toList ∧
      Marked "@lost" ∧ "@lost" ∉ s.keys .hostGroup ∧ ¬ Marked "node1" ∧
      (check valueTypes s).warnings =
        ["cluster queue 'all.q'.hostlist: 'node1' is not defined in the snapshot"] := by
  decide +kernel

end ClusterConf.Validation
