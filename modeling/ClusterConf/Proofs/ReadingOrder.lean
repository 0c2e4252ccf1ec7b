import ClusterConf.Proofs.LocalRuns
import ClusterConf.Proofs.PhaseRuns
set_option autoImplicit false

/-!
The order of calls in which the live cluster is read. Main statement: on any plane, whatever it
answers, reading makes its calls in one fixed order, up to the first that fails, and its error
tells which one that was; a local plane with distinct keys is read as it is.
-/
namespace ClusterConf.Live

open Program
open Control (calls trace_call_iff)

/-- The calls that read records by their keys. Flat kinds need none. -/
def recordCalls (k : Kind) (keys : List String) : List PlaneCall :=
  if k.isFlat then [] else keys.map (.read k)

/-- All calls that read some kinds, when the plane lists the keys `listed`. -/
def callsFor (kinds : List Kind) (listed : Kind → List String) : List PlaneCall :=
  kinds.flatMap fun k => .list k :: recordCalls k (listed k)

/-- All calls of reading, when the plane lists the keys `listed`. -/
def script (listed : Kind → List String) : List PlaneCall :=
  .showGlobal :: callsFor Kind.creationOrder listed

/-- The keys that the plane has listed are these. -/
def Lists (listed : Kind → List String) (xs : List (Exchange Plane)) : Prop :=
  ∀ k keys, ⟨.list k, .ok keys⟩ ∈ xs → listed k = keys

/-- What reading tells of a failed call. -/
def failure? : PlaneCall → PlaneError → Option ReadError
  | .showGlobal, source => some (.globalConfig source)
  | .list k, source => some (.list k source)
  | .read k key, source => some (.record k key source)
  | _, _ => none

/-- Calls made one after the other. The first failure ends them, and what is told of it. -/
inductive Inquiry : List PlaneCall → List (Exchange Plane) → Option ReadError → Prop
  | nil : Inquiry [] [] none
  | answered (x : Exchange Plane) {order : List PlaneCall} {xs : List (Exchange Plane)}
      {e : Option ReadError} (succeeded : ¬ x.Failed) (rest : Inquiry order xs e) :
      Inquiry (x.request :: order) (x :: xs) e
  | stopped (x : Exchange Plane) (source : PlaneError) {e : ReadError} (order : List PlaneCall)
      (failed : x.request.refusal? source = some x.answer)
      (tells : failure? x.request source = some e) :
      Inquiry (x.request :: order) [x] (some e)

namespace Inquiry

variable {order order' : List PlaneCall} {xs ys : List (Exchange Plane)} {r : Option ReadError}
  {e : ReadError}

theorem append (first : Inquiry order xs none) (second : Inquiry order' ys r) :
    Inquiry (order ++ order') (xs ++ ys) r := by
  generalize ended : none = told at first
  induction first with
  | nil => exact second
  | answered x succeeded _ ih => exact .answered x succeeded (ih ended)
  | stopped x source order failed tells => cases ended

/-- Calls that would have come later do not matter once one has failed. -/
theorem append_stopped (first : Inquiry order xs (some e)) (order' : List PlaneCall) :
    Inquiry (order ++ order') xs (some e) := by
  generalize ended : some e = told at first
  induction first with
  | nil => cases ended
  | answered x succeeded _ ih => exact .answered x succeeded (ih ended)
  | stopped x source order failed tells =>
    exact .stopped x source (order ++ order') failed tells

theorem requests_prefix (inquiry : Inquiry order xs r) : xs.map Exchange.request <+: order := by
  induction inquiry with
  | nil => exact List.prefix_rfl
  | answered x succeeded _ ih => exact (List.prefix_cons_inj x.request).mpr ih
  | stopped x source order failed tells =>
    exact (List.prefix_cons_inj x.request).mpr List.nil_prefix

theorem requests_eq (inquiry : Inquiry order xs none) : xs.map Exchange.request = order := by
  generalize ended : none = told at inquiry
  induction inquiry with
  | nil => rfl
  | answered x succeeded _ ih => exact congrArg (List.cons _) (ih ended)
  | stopped x source order failed tells => cases ended

theorem not_failed (inquiry : Inquiry order xs none) : ∀ x ∈ xs, ¬ x.Failed := by
  generalize ended : none = told at inquiry
  induction inquiry with
  | nil => exact List.forall_mem_nil _
  | answered x succeeded _ ih => exact List.forall_mem_cons.mpr ⟨succeeded, ih ended⟩
  | stopped x source order failed tells => cases ended

/-- The call that failed is the last one and the only one. -/
theorem last_failed (inquiry : Inquiry order xs (some e)) :
    ∃ front x source, xs = front ++ [x] ∧ (∀ y ∈ front, ¬ y.Failed) ∧
      x.request.refusal? source = some x.answer ∧ failure? x.request source = some e := by
  generalize ended : some e = told at inquiry
  induction inquiry with
  | nil => cases ended
  | answered x succeeded _ ih =>
    obtain ⟨front, last, source, rfl, before, failed, tells⟩ := ih ended
    exact ⟨x :: front, last, source, rfl, List.forall_mem_cons.mpr ⟨succeeded, before⟩, failed,
      tells⟩
  | stopped x source order failed tells =>
    obtain rfl := Option.some.inj ended
    exact ⟨[], x, source, rfl, List.forall_mem_nil _, failed, tells⟩

end Inquiry

/-- The failure that an attempt to read ended with. -/
def told {α : Type} : Except ReadError α → Option ReadError
  | .ok _ => none
  | .error e => some e

variable {k : Kind} {xs : List (Exchange Plane)}

theorem isSome_ofKey? (k : Kind) (key : String) : (k.ofKey? key).isSome = k.isFlat := by
  cases k <;> rfl

theorem recordCalls_cons (k : Kind) (key : String) (rest : List String) :
    recordCalls k (key :: rest) = recordCalls k [key] ++ recordCalls k rest := by
  unfold recordCalls
  split <;> rfl

theorem list_notMem_recordCalls (k l : Kind) (keys : List String) :
    .list l ∉ recordCalls k keys := by
  unfold recordCalls
  split <;> simp

/-- A listed key of a structured kind takes one call, one of a flat kind takes none. -/
theorem fetch_inquiry {key : String} {answer : Except PlaneError k.Record}
    (trace : Trace (fetch k key) xs answer) :
    Inquiry (recordCalls k [key]) xs (told (answer.mapError (.record k key))) := by
  have known := isSome_ofKey? k key
  unfold fetch at trace
  unfold recordCalls
  rw [← known]
  cases tells : k.ofKey? key with
  | some r =>
    rw [tells] at trace
    obtain ⟨rfl, rfl⟩ := trace_done_iff.mp trace
    exact .nil
  | none =>
    rw [tells] at trace
    obtain rfl := trace_call_iff.mp trace
    cases answer with
    | ok r => exact .answered ⟨.read k key, .ok r⟩ (by rintro ⟨e, ⟨⟩⟩) .nil
    | error source => exact .stopped ⟨.read k key, .error source⟩ source [] rfl rfl

theorem readRecords_inquiry {keys : List String} {r : Except ReadError (List k.Record)}
    (trace : Trace (readRecords k keys) xs r) : Inquiry (recordCalls k keys) xs (told r) := by
  induction keys generalizing xs r with
  | nil =>
    obtain ⟨rfl, rfl⟩ := trace_done_iff.mp trace
    have none : recordCalls k [] = [] := ite_self []
    rw [none]
    exact .nil
  | cons key rest ih =>
    rw [readRecords_cons] at trace
    obtain ⟨ys, zs, answer, rfl, fetching, reading⟩ := trace_bind_iff.mp trace
    have first := fetch_inquiry fetching
    rw [recordCalls_cons]
    cases answer with
    | error source =>
      obtain ⟨rfl, rfl⟩ := trace_done_iff.mp reading
      rw [List.append_nil]
      exact first.append_stopped _
    | ok record =>
      obtain ⟨us, vs, tail, rfl, remaining, last⟩ := trace_bind_iff.mp reading
      obtain ⟨rfl, rfl⟩ := trace_done_iff.mp last
      have same : told (tail.map (record :: ·)) = told tail := by cases tail <;> rfl
      rw [List.append_nil, same]
      exact first.append (ih remaining)

/-- A kind is listed, once, and then its records are read. -/
theorem readCollection_inquiry {r : Except ReadError (List k.Record)}
    (trace : Trace (readCollection k) xs r) :
    ∃ keys, (∀ l given, ⟨.list l, .ok given⟩ ∈ xs → l = k ∧ given = keys) ∧
      Inquiry (.list k :: recordCalls k keys) xs (told r) := by
  obtain ⟨ys, zs, answer, rfl, listing, reading⟩ := trace_bind_iff.mp trace
  obtain rfl := trace_call_iff.mp listing
  cases answer with
  | error source =>
    obtain ⟨rfl, rfl⟩ := trace_done_iff.mp reading
    refine ⟨[], ?_, .stopped ⟨.list k, .error source⟩ source _ rfl rfl⟩
    intro l given inside
    cases List.mem_singleton.mp inside
  | ok keys =>
    have records := readRecords_inquiry reading
    refine ⟨keys, ?_, .answered ⟨.list k, .ok keys⟩ (by rintro ⟨e, ⟨⟩⟩) records⟩
    intro l given inside
    rcases List.mem_cons.mp inside with same | inside
    · cases same
      exact ⟨rfl, rfl⟩
    · exact absurd (records.requests_prefix.subset (List.mem_map_of_mem inside))
        (list_notMem_recordCalls k l keys)

theorem list_mem_callsFor {kinds : List Kind} {listed : Kind → List String}
    (asked : .list k ∈ callsFor kinds listed) : k ∈ kinds := by
  obtain ⟨l, inside, among⟩ := List.mem_flatMap.mp asked
  rcases List.mem_cons.mp among with same | among
  · rwa [PlaneCall.list.inj same]
  · exact absurd among (list_notMem_recordCalls l k _)

theorem callsFor_congr {kinds : List Kind} {listed listed' : Kind → List String}
    (same : ∀ k ∈ kinds, listed k = listed' k) : callsFor kinds listed = callsFor kinds listed' :=
  List.flatMap_congr fun k inside => by rw [same k inside]

/-- Calls that list one kind, and then calls that do not. -/
theorem Lists.append_update {listed : Kind → List String} {keys : List String}
    {xs ys : List (Exchange Plane)}
    (first : ∀ l given, ⟨.list l, .ok given⟩ ∈ xs → l = k ∧ given = keys)
    (others : Lists listed ys) (fresh : ∀ given, ⟨.list k, .ok given⟩ ∉ ys) :
    Lists (Function.update listed k keys) (xs ++ ys) := by
  intro l given inside
  rcases List.mem_append.mp inside with inside | inside
  · obtain ⟨rfl, rfl⟩ := first l given inside
    rw [Function.update_self]
  · have different : l ≠ k := by
      rintro rfl
      exact fresh given inside
    rw [Function.update_of_ne different]
    exact others l given inside

theorem readCollections_inquiry {kinds : List Kind} (once : kinds.Nodup) {before : Snapshot}
    {r : Except ReadError Snapshot} (trace : Trace (readCollections kinds before) xs r) :
    ∃ listed, Lists listed xs ∧ Inquiry (callsFor kinds listed) xs (told r) := by
  induction kinds generalizing before xs r with
  | nil =>
    obtain ⟨rfl, rfl⟩ := trace_done_iff.mp trace
    exact ⟨fun _ => [], nofun, .nil⟩
  | cons k rest ih =>
    obtain ⟨fresh, onceRest⟩ := List.nodup_cons.mp once
    obtain ⟨ys, zs, answer, rfl, reading, remaining⟩ := trace_bind_iff.mp trace
    obtain ⟨keys, own, first⟩ := readCollection_inquiry reading
    cases answer with
    | error e =>
      obtain ⟨rfl, rfl⟩ := trace_done_iff.mp remaining
      rw [List.append_nil]
      exact ⟨fun _ => keys, fun l given inside => (own l given inside).2.symm,
        first.append_stopped _⟩
    | ok rs =>
      obtain ⟨listed, others, second⟩ := ih onceRest remaining
      have apart : ∀ given, ⟨.list k, .ok given⟩ ∉ zs := fun given inside =>
        fresh (list_mem_callsFor (second.requests_prefix.subset (List.mem_map_of_mem inside)))
      have same : callsFor rest listed = callsFor rest (Function.update listed k keys) := by
        refine callsFor_congr fun l inside => ?_
        rw [Function.update_of_ne (by rintro rfl; exact fresh inside)]
      refine ⟨Function.update listed k keys, others.append_update own apart, ?_⟩
      have whole := first.append second
      rw [same] at whole
      rw [callsFor, List.flatMap_cons, Function.update_self]
      exact whole

theorem calls_of_asks (asks : ∀ x ∈ xs, x.request.Asks) : calls xs = xs := by
  refine List.filter_eq_self.mpr fun x inside => ?_
  exact (Bool.and_eq_true_iff.mp (asks x inside)).1

theorem calls_note {event : Event} {u : Unit} (trace : Trace (Control.note event) xs u) :
    calls xs = [] := by
  obtain rfl := trace_call_iff.mp trace
  rfl

theorem readAll_inquiry {r : Except ReadError Snapshot} (trace : Trace readAll xs r) :
    ∃ listed, Lists listed (calls xs) ∧ Inquiry (script listed) (calls xs) (told r) := by
  obtain ⟨us, ys, shown, rfl, showing, reading⟩ := trace_bind_iff.mp trace
  obtain rfl := trace_call_iff.mp showing
  rw [Control.calls_append]
  cases shown with
  | error source =>
    obtain ⟨rfl, rfl⟩ := trace_done_iff.mp reading
    refine ⟨fun _ => [], ?_, .stopped ⟨.showGlobal, .error source⟩ source _ rfl rfl⟩
    intro k keys inside
    simp [calls] at inside
  | ok g =>
    obtain ⟨vs, zs, collected, rfl, collecting, ending⟩ := trace_bind_iff.mp reading
    obtain ⟨listed, tells, inquiry⟩ := readCollections_inquiry Kind.nodup_creationOrder collecting
    have asked : calls vs = vs :=
      calls_of_asks ((only_readCollections _ _).trace collecting)
    have rest : calls zs = [] ∧ told r = told collected := by
      cases collected with
      | error e =>
        obtain ⟨rfl, rfl⟩ := trace_done_iff.mp ending
        exact ⟨rfl, rfl⟩
      | ok s =>
        obtain ⟨ws, last, _, rfl, noted, final⟩ := trace_bind_iff.mp ending
        obtain ⟨rfl, rfl⟩ := trace_done_iff.mp final
        rw [List.append_nil]
        exact ⟨calls_note noted, rfl⟩
    rw [Control.calls_append, asked, rest.1, List.append_nil, rest.2]
    refine ⟨listed, ?_, .answered ⟨.showGlobal, .ok g⟩ (by rintro ⟨e, ⟨⟩⟩) inquiry⟩
    intro k keys inside
    rcases List.mem_cons.mp inside with same | inside
    · simp at same
    · exact tells k keys inside

theorem read_inquiry {r : Except ReadError Snapshot} (trace : Trace read xs r) :
    ∃ listed, Lists listed (calls xs) ∧ Inquiry (script listed) (calls xs) (told r) := by
  rw [read_eq] at trace
  obtain ⟨us, ys, name, rfl, naming, reading⟩ := trace_bind_iff.mp trace
  obtain ⟨vs, zs, _, rfl, noted, remaining⟩ := trace_bind_iff.mp reading
  obtain rfl := trace_call_iff.mp naming
  rw [Control.calls_append, Control.calls_append, calls_note noted]
  exact readAll_inquiry remaining

/-- Reading that ended with `r` made the calls `made`: in order as far as it came, all of them
unless one failed. A failed call was the last one, and the error tells which one it was. -/
structure Ordered (listed : Kind → List String) (made : List (Exchange Plane))
    (r : Except ReadError Snapshot) : Prop where
  lists : Lists listed made
  inOrder : made.map Exchange.request <+: script listed
  whole : ∀ s, r = .ok s → made.map Exchange.request = script listed
  failing : (∃ e, r = .error e) ↔ ∃ x ∈ made, x.Failed
  last : ∀ e, r = .error e → ∃ front x source, made = front ++ [x] ∧ (∀ y ∈ front, ¬ y.Failed) ∧
    x.request.refusal? source = some x.answer ∧ failure? x.request source = some e

theorem read_ordered {r : Except ReadError Snapshot} (trace : Trace read xs r) :
    ∃ listed, Ordered listed (calls xs) r := by
  obtain ⟨listed, tells, inquiry⟩ := read_inquiry trace
  refine ⟨listed, tells, inquiry.requests_prefix, ?_, ?_, ?_⟩
  · rintro s rfl
    exact inquiry.requests_eq
  · cases r with
    | ok s =>
      constructor
      · rintro ⟨e, ⟨⟩⟩
      · rintro ⟨x, inside, failed⟩
        exact absurd failed (inquiry.not_failed x inside)
    | error e =>
      obtain ⟨front, x, source, made, -, failed, -⟩ := inquiry.last_failed
      have inside : x ∈ calls xs := by
        rw [made]
        exact List.mem_append_right front List.mem_cons_self
      exact iff_of_true ⟨e, rfl⟩ ⟨x, inside, source, failed⟩
  · rintro e rfl
    exact inquiry.last_failed

/-- A local plane with distinct keys is read as it is, without its environment. -/
theorem read_local {W : Type} (machine : Server Machine W) {plane : LocalPlane} (world : W)
    (distinct : plane.state.Distinct) :
    (read.exec (LocalPlane.on machine) (plane, world)).1 =
      .ok { plane.state with environment := none } := by
  have trace := exec_trace (LocalPlane.on machine) read (plane, world)
  have reads := only_read.trace trace
  obtain ⟨-, seen⟩ :=
    (LocalPlane.follows_readable machine read (plane, world)).steady Store.Readable.unchanged reads
  have obeyed : Obeyed plane.state (read.journal (LocalPlane.on machine) (plane, world)) :=
    fun x inside => (seen x inside).ruled (reads x inside)
  obtain ⟨found, succeeded⟩ := read_succeeds trace obeyed
  rw [succeeded] at trace ⊢
  rw [(read_mirrors trace fun x inside => .inl (obeyed x inside)).eq distinct]

/-- Reading changes nothing. It finds a local plane with distinct keys as it is, and on any plane,
whatever calls fail, it stops at the first failure of its order and tells it. -/
theorem read_finds_all_or_fails {W σ : Type} (machine : Server Machine W) (plane : LocalPlane)
    (world : W) (serve : Server Plane σ) (start : σ) :
    (plane.state.Distinct → (read.exec (LocalPlane.on machine) (plane, world)).1 =
      .ok { plane.state with environment := none }) ∧
    (∃ listed, Ordered listed (calls (read.journal serve start)) (read.exec serve start).1) ∧
    ∀ x ∈ read.journal serve start, x.request.isMutation = false :=
  ⟨read_local machine world, read_ordered (exec_trace serve read start),
    only_read.trace (exec_trace serve read start)⟩

/-- A small cluster is read, and not if the call fails that reads its host. -/
theorem read_finds_all_or_fails_of_small :
    let plane := LocalPlane.inMemory (.small "staff" ⟨0x3ff0000000000000⟩)
    let busy : Faults := fun n => if n = 12 then some (.backend "busy") else none
    let serve := busy.impose (LocalPlane.on obliging)
    plane.state.Distinct ∧
      (read.exec (LocalPlane.on obliging) (plane, ())).1 =
        .ok { plane.state with environment := none } ∧
      ∃ listed, Ordered listed (calls (read.journal serve (0, plane, ())))
        (.error (.record .execHost "node1" (.backend "busy"))) := by
  intro plane busy serve
  have distinct : plane.state.Distinct := by decide
  obtain ⟨whole, ordered, -⟩ :=
    read_finds_all_or_fails obliging plane () serve (0, plane, ())
  have failed : (read.exec serve (0, plane, ())).1 =
      .error (.record .execHost "node1" (.backend "busy")) := rfl
  rw [failed] at ordered
  exact ⟨distinct, whole distinct, ordered⟩

end ClusterConf.Live
