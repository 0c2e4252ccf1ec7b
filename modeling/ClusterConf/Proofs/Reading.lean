import ClusterConf.Plane.Live
import ClusterConf.Proofs.StoreRules
set_option autoImplicit false

/-!
Reading the live cluster. Main statements: reading changes nothing, and against a plane that keeps
a snapshot it finds the keys of that snapshot, and all of its records when no key is there twice.
-/
namespace ClusterConf

open Program

theorem Control.trace_call_iff {c : PlaneCall} {xs : List (Exchange Plane)} {answer : c.Answer} :
    Trace (Control.call c) xs answer ↔ xs = [⟨c, answer⟩] := by
  constructor
  · intro trace
    obtain ⟨given, ys, rfl, rest⟩ := trace_ask_iff.mp trace
    obtain ⟨rfl, rfl⟩ := trace_done_iff.mp rest
    rfl
  · rintro rfl
    exact trace_ask_iff.mpr ⟨answer, [], rfl, .done answer⟩

/-- A call that changes nothing. -/
def PlaneCall.Reads (c : PlaneCall) : Prop := c.isMutation = false

/-- Whether a call asks what the cluster holds. -/
def PlaneCall.asks (c : PlaneCall) : Bool := c.isRoundTrip && !c.isMutation

def PlaneCall.Asks (c : PlaneCall) : Prop := c.asks = true

/-- A call that asks what the cluster holds, or only logs. -/
def PlaneCall.AsksOrNotes (c : PlaneCall) : Prop := c.asks = true ∨ ∃ event, c = .note event

theorem PlaneCall.AsksOrNotes.reads {c : PlaneCall} (h : c.AsksOrNotes) : c.Reads := by
  rcases h with asked | ⟨event, rfl⟩
  · have both : c.isRoundTrip = true ∧ c.isMutation = false := by
      simpa [PlaneCall.asks] using asked
    exact both.2
  · rfl

theorem Control.only_ask {c : PlaneCall} (asks : c.Asks) :
    Only PlaneCall.Asks (Control.call c) :=
  .request asks

theorem Control.only_note (event : Event) : Only PlaneCall.AsksOrNotes (Control.note event) :=
  .request (.inr ⟨event, rfl⟩)

/-- In a row of exchanges that leave the state alone, each is a step from that state to itself. -/
theorem Follows.steady {σ : Type} {step : σ → Exchange Plane → σ → Prop}
    (frame : ∀ {s x t}, step s x t → x.request.Reads → t = s) {s t : σ}
    {xs : List (Exchange Plane)} (reads : ∀ x ∈ xs, x.request.Reads)
    (follows : Follows step s xs t) : t = s ∧ ∀ x ∈ xs, step s x s := by
  induction follows with
  | nil s => exact ⟨rfl, by simp⟩
  | @cons before between after x xs first rest ih =>
    have same : between = before := frame first (reads x List.mem_cons_self)
    subst same
    obtain ⟨last, steps⟩ := ih fun y member => reads y (List.mem_cons_of_mem x member)
    exact ⟨last, List.forall_mem_cons.mpr ⟨first, steps⟩⟩

namespace Live

open Control (call note trace_call_iff)
open Keyed (keysOf)
open Snapshot (Distinct)

/-- The record of a listed key, from the plane if the key alone does not tell it. -/
def fetch (k : Kind) (key : String) : Control (Except PlaneError k.Record) :=
  match k.ofKey? key with
  | some r => pure (.ok r)
  | none => call (.read k key)

/-- Adds a record to those that are read next. -/
def andThen (k : Kind) (key : String) (rest : List String) :
    Except PlaneError k.Record → Control (Except ReadError (List k.Record))
  | .error source => pure (.error (.record k key source))
  | .ok r => readRecords k rest >>= fun read => pure (read.map (r :: ·))

theorem readRecords_cons (k : Kind) (key : String) (rest : List String) :
    readRecords k (key :: rest) = fetch k key >>= andThen k key rest := by
  rw [readRecords, fetch]
  cases k.ofKey? key with
  | some r => rfl
  | none =>
    refine congrArg (Bind.bind _) (funext fun answer => ?_)
    cases answer <;> rfl

/-- A key that tells its record is the key of it, and tells it to everyone. -/
theorem ofKey?_eq_some_iff {k : Kind} {key : String} {r : k.Record} (flat : (k.ofKey? key).isSome) :
    k.ofKey? key = some r ↔ k.key r = key := by
  cases k <;>
    first
    | exact ⟨fun same => (Option.some.inj same).symm, fun same => congrArg some same.symm⟩
    | cases flat

theorem only_fetch (k : Kind) (key : String) : Only PlaneCall.Asks (fetch k key) := by
  unfold fetch
  split
  · exact .done _
  · exact Control.only_ask rfl

theorem only_readRecords (k : Kind) (keys : List String) :
    Only PlaneCall.Asks (readRecords k keys) := by
  induction keys with
  | nil => exact .done _
  | cons key rest ih =>
    rw [readRecords_cons]
    refine (only_fetch k key).bind fun answer => ?_
    cases answer with
    | error source => exact .done _
    | ok r => exact ih.bind fun _ => .done _

theorem only_readCollection (k : Kind) : Only PlaneCall.Asks (readCollection k) := by
  refine (Control.only_ask (c := .list k) rfl).bind fun answer => ?_
  cases answer with
  | error source => exact .done _
  | ok keys => exact only_readRecords k keys

theorem only_readCollections (kinds : List Kind) (s : Snapshot) :
    Only PlaneCall.Asks (readCollections kinds s) := by
  induction kinds generalizing s with
  | nil => exact .done _
  | cons k rest ih =>
    refine (only_readCollection k).bind fun answer => ?_
    cases answer with
    | error source => exact .done _
    | ok rs => exact ih _

/-- Reading apart from the name of the plane, which is only logged. -/
def readAll : Control (Except ReadError Snapshot) := do
  match ← call .showGlobal with
  | .error source => return .error (.globalConfig source)
  | .ok globalConfig =>
    match ← readCollections Kind.creationOrder { Snapshot.empty with globalConfig } with
    | .error e => return .error e
    | .ok s =>
      note (.debug .observer s!"Read {s.entityCount} live entities")
      return .ok s

theorem read_eq :
    read = call .backend >>= fun name =>
      note (.info .observer s!"Reading live configuration from {name} backend") >>= fun _ =>
        readAll := rfl

theorem only_readAll : Only PlaneCall.AsksOrNotes readAll := by
  refine ((Control.only_ask (c := .showGlobal) rfl).mono fun _ => .inl).bind fun answer => ?_
  cases answer with
  | error source => exact .done _
  | ok globalConfig =>
    refine ((only_readCollections _ _).mono fun _ => .inl).bind fun answer => ?_
    cases answer with
    | error source => exact .done _
    | ok s => exact (Control.only_note _).bind fun _ => .done _

/-- Reading the live cluster never changes it. -/
theorem only_read : Only PlaneCall.Reads read := by
  rw [read_eq]
  refine Only.bind (.request rfl) fun name => Only.bind (.request rfl) fun _ => ?_
  exact only_readAll.mono fun _ => PlaneCall.AsksOrNotes.reads

/-- The record that reading a key of a snapshot brings. -/
def Fetched (s : Snapshot) (k : Kind) (key : String) (r : k.Record) : Prop :=
  k.ofKey? key = some r ∨ k.ofKey? key = none ∧ Store.read k key s = .ok r

theorem store_read_eq_ok_iff {s : Snapshot} {k : Kind} {key : String} {r : k.Record} :
    Store.read k key s = .ok r ↔ (s.records k).find? (fun r => k.key r == key) = some r := by
  unfold Store.read
  cases found : (s.records k).find? fun r => k.key r == key with
  | none => simp
  | some r' => simp

theorem Fetched.key_eq {s : Snapshot} {k : Kind} {key : String} {r : k.Record}
    (fetched : Fetched s k key r) : k.key r = key := by
  rcases fetched with told | ⟨-, found⟩
  · exact (ofKey?_eq_some_iff (by rw [told]; rfl)).mp told
  · simpa using List.find?_some (store_read_eq_ok_iff.mp found)

theorem Fetched.unique {s : Snapshot} (distinct : s.Distinct) {k : Kind} {r r' : k.Record}
    (member : r' ∈ s.records k) (fetched : Fetched s k (k.key r') r) : r = r' := by
  rcases fetched with told | ⟨-, found⟩
  · have own := (ofKey?_eq_some_iff (r := r') (by rw [told]; rfl)).mpr rfl
    exact Option.some.inj (told.symm.trans own)
  · have own := Keyed.find?_key_eq_some (distinct k) member
    exact Option.some.inj ((store_read_eq_ok_iff.mp found).symm.trans own)

/-- The exchanges of a run in which a plane that keeps `s` was only read. -/
def Seen (s : Snapshot) (xs : List (Exchange Plane)) : Prop := ∀ x ∈ xs, Store.Faulty s x s

theorem seen_append {s : Snapshot} {xs ys : List (Exchange Plane)} :
    Seen s (xs ++ ys) ↔ Seen s xs ∧ Seen s ys := List.forall_mem_append

theorem seen_singleton {s : Snapshot} {x : Exchange Plane} : Seen s [x] ↔ Store.Faulty s x s :=
  List.forall_mem_singleton

theorem fetch_fetched {s : Snapshot} {k : Kind} {key : String} {r : k.Record}
    {xs : List (Exchange Plane)} (trace : Trace (fetch k key) xs (.ok r)) (seen : Seen s xs) :
    Fetched s k key r := by
  unfold fetch at trace
  cases told : k.ofKey? key with
  | some r' =>
    rw [told] at trace
    obtain ⟨-, equal⟩ := trace_done_iff.mp trace
    exact .inl (told.trans (congrArg some (Except.ok.inj equal).symm))
  | none =>
    rw [told] at trace
    obtain rfl := trace_call_iff.mp trace
    exact .inr ⟨told, (seen_singleton.mp seen).read⟩

theorem readRecords_fetched {s : Snapshot} {k : Kind} {keys : List String} {rs : List k.Record}
    {xs : List (Exchange Plane)} (trace : Trace (readRecords k keys) xs (.ok rs))
    (seen : Seen s xs) : List.Forall₂ (Fetched s k) keys rs := by
  induction keys generalizing rs xs with
  | nil =>
    obtain ⟨-, equal⟩ := trace_done_iff.mp trace
    rw [Except.ok.inj equal]
    exact .nil
  | cons key rest ih =>
    rw [readRecords_cons] at trace
    obtain ⟨ys, zs, answer, rfl, first, second⟩ := trace_bind_iff.mp trace
    obtain ⟨seenFirst, seenSecond⟩ := seen_append.mp seen
    cases answer with
    | error source =>
      obtain ⟨-, equal⟩ := trace_done_iff.mp second
      cases equal
    | ok r =>
      obtain ⟨us, vs, answer, rfl, reading, last⟩ := trace_bind_iff.mp second
      obtain ⟨rfl, equal⟩ := trace_done_iff.mp last
      cases answer with
      | error source => cases equal
      | ok tail =>
        rw [Except.ok.inj equal]
        exact .cons (fetch_fetched first seenFirst)
          (ih reading (seen_append.mp seenSecond).1)

theorem readCollection_fetched {s : Snapshot} {k : Kind} {rs : List k.Record}
    {xs : List (Exchange Plane)} (trace : Trace (readCollection k) xs (.ok rs))
    (seen : Seen s xs) : List.Forall₂ (Fetched s k) (s.keys k) rs := by
  obtain ⟨ys, zs, answer, rfl, first, second⟩ := trace_bind_iff.mp trace
  obtain ⟨seenFirst, seenSecond⟩ := seen_append.mp seen
  obtain rfl := trace_call_iff.mp first
  cases answer with
  | error source =>
    obtain ⟨-, equal⟩ := trace_done_iff.mp second
    cases equal
  | ok keys =>
    rw [← (seen_singleton.mp seenFirst).list]
    exact readRecords_fetched second seenSecond

/-- What reading some kinds adds to a snapshot. -/
structure Extends (s : Snapshot) (kinds : List Kind) (before after : Snapshot) : Prop where
  read : ∀ k ∈ kinds, ∃ rs, after.records k = before.records k ++ rs ∧
    List.Forall₂ (Fetched s k) (s.keys k) rs
  kept : ∀ k ∉ kinds, after.records k = before.records k
  globalConfig : after.globalConfig = before.globalConfig
  environment : after.environment = before.environment

theorem readCollections_extends {s : Snapshot} {kinds : List Kind} (once : kinds.Nodup)
    {before after : Snapshot} {xs : List (Exchange Plane)}
    (trace : Trace (readCollections kinds before) xs (.ok after)) (seen : Seen s xs) :
    Extends s kinds before after := by
  induction kinds generalizing before xs with
  | nil =>
    obtain ⟨-, equal⟩ := trace_done_iff.mp trace
    obtain rfl := Except.ok.inj equal
    exact ⟨by simp, fun _ _ => rfl, rfl, rfl⟩
  | cons k rest ih =>
    obtain ⟨fresh, onceRest⟩ := List.nodup_cons.mp once
    obtain ⟨ys, zs, answer, rfl, first, second⟩ := trace_bind_iff.mp trace
    obtain ⟨seenFirst, seenSecond⟩ := seen_append.mp seen
    cases answer with
    | error source =>
      obtain ⟨-, equal⟩ := trace_done_iff.mp second
      cases equal
    | ok rs =>
      have found := readCollection_fetched first seenFirst
      have grown := ih onceRest second seenSecond
      refine ⟨?_, ?_, ?_, ?_⟩
      · intro l member
        rcases List.mem_cons.mp member with rfl | member
        · exact ⟨rs, by rw [grown.kept l fresh, Snapshot.records_append_self], found⟩
        · have different : l ≠ k := fun same => fresh (same ▸ member)
          obtain ⟨read, equal, fetched⟩ := grown.read l member
          exact ⟨read, by rw [equal, Snapshot.records_append_of_ne _ _ different], fetched⟩
      · intro l absent
        obtain ⟨different, outside⟩ := not_or.mp (fun either => absent (List.mem_cons.mpr either))
        rw [grown.kept l outside, Snapshot.records_append_of_ne _ _ different]
      · exact grown.globalConfig.trans (Snapshot.globalConfig_append _ _ _)
      · exact grown.environment.trans (Snapshot.environment_append _ _ _)

/-- A snapshot read from a plane that keeps `s`. -/
structure Mirrors (s read : Snapshot) : Prop where
  records : ∀ k, List.Forall₂ (Fetched s k) (s.keys k) (read.records k)
  globalConfig : read.globalConfig = s.globalConfig
  environment : read.environment = none

theorem read_mirrors {s found : Snapshot} {xs : List (Exchange Plane)}
    (trace : Trace read xs (.ok found)) (seen : Seen s xs) : Mirrors s found := by
  obtain ⟨us, rest, name, rfl, -, named⟩ := trace_bind_iff.mp trace
  obtain ⟨vs, rest, _, rfl, -, noted⟩ := trace_bind_iff.mp named
  obtain ⟨ws, rest, answer, rfl, shown, remaining⟩ := trace_bind_iff.mp noted
  obtain ⟨-, seenShown, seenRest⟩ :=
    (seen_append.mp (seen_append.mp seen).2).imp_right seen_append.mp
  obtain rfl := trace_call_iff.mp shown
  cases answer with
  | error source =>
    obtain ⟨-, equal⟩ := trace_done_iff.mp remaining
    cases equal
  | ok globalConfig =>
    obtain ⟨ys, zs, answer, rfl, collected, last⟩ := trace_bind_iff.mp remaining
    cases answer with
    | error e =>
      obtain ⟨-, equal⟩ := trace_done_iff.mp last
      cases equal
    | ok whole =>
      obtain ⟨_, _, _, rfl, -, final⟩ := trace_bind_iff.mp last
      obtain ⟨-, equal⟩ := trace_done_iff.mp final
      obtain rfl := Except.ok.inj equal
      have grown := readCollections_extends Kind.nodup_creationOrder collected
        (seen_append.mp seenRest).1
      refine ⟨fun k => ?_, ?_, grown.environment⟩
      · obtain ⟨rs, equal, fetched⟩ := grown.read k (Kind.mem_creationOrder k)
        rw [equal, Snapshot.records_with_globalConfig, Snapshot.records_empty, List.nil_append]
        exact fetched
      · exact grown.globalConfig.trans (seen_singleton.mp seenShown).showGlobal

theorem Fetched.keysOf_eq {s : Snapshot} {k : Kind} {keys : List String} {rs : List k.Record}
    (fetched : List.Forall₂ (Fetched s k) keys rs) : keysOf rs = keys := by
  induction fetched with
  | nil => rfl
  | cons first _ ih => rw [Keyed.keysOf_cons, ih]; exact congrArg (· :: _) first.key_eq

theorem Fetched.eq_records {s : Snapshot} (distinct : s.Distinct) {k : Kind} {rs us : List k.Record}
    (members : ∀ r ∈ us, r ∈ s.records k) (fetched : List.Forall₂ (Fetched s k) (keysOf us) rs) :
    rs = us := by
  induction us generalizing rs with
  | nil =>
    cases fetched
    rfl
  | cons u us ih =>
    cases fetched with
    | cons first rest =>
      rw [first.unique distinct (members u List.mem_cons_self),
        ih (fun r member => members r (List.mem_cons_of_mem u member)) rest]

/-- Reading finds the keys of a plane in its own order, repeated ones included. -/
theorem Mirrors.keys {s found : Snapshot} (mirrors : Mirrors s found) (k : Kind) :
    found.keys k = s.keys k :=
  Fetched.keysOf_eq (mirrors.records k)

theorem Mirrors.records_eq_nil_iff {s found : Snapshot} (mirrors : Mirrors s found) :
    (∀ k, found.records k = []) ↔ ∀ k, s.records k = [] := by
  refine forall_congr' fun k => ?_
  have keys : (found.records k).map k.key = (s.records k).map k.key := mirrors.keys k
  rw [← List.map_eq_nil_iff (f := k.key), keys, List.map_eq_nil_iff]

/-- With distinct keys reading finds everything but the environment. -/
theorem Mirrors.eq {s found : Snapshot} (mirrors : Mirrors s found) (distinct : s.Distinct) :
    found = { s with environment := none } := by
  refine Snapshot.ext_records mirrors.environment mirrors.globalConfig fun k => ?_
  have same : ({ s with environment := none } : Snapshot).records k = s.records k := by
    cases k <;> rfl
  rw [same]
  exact Fetched.eq_records distinct (fun _ member => member) (mirrors.records k)

/-- The exchanges of a run in which a plane that keeps `s` was only read, and did not fail. -/
def Obeyed (s : Snapshot) (xs : List (Exchange Plane)) : Prop := ∀ x ∈ xs, Store.Ruled s x s

theorem obeyed_append {s : Snapshot} {xs ys : List (Exchange Plane)} :
    Obeyed s (xs ++ ys) ↔ Obeyed s xs ∧ Obeyed s ys := List.forall_mem_append

theorem obeyed_singleton {s : Snapshot} {x : Exchange Plane} :
    Obeyed s [x] ↔ Store.Ruled s x s := List.forall_mem_singleton

theorem fetch_succeeds {s : Snapshot} {k : Kind} {key : String} (present : key ∈ s.keys k)
    {xs : List (Exchange Plane)} {answer : Except PlaneError k.Record}
    (trace : Trace (fetch k key) xs answer) (obeyed : Obeyed s xs) : ∃ r, answer = .ok r := by
  unfold fetch at trace
  split at trace
  · exact ⟨_, (trace_done_iff.mp trace).2⟩
  · obtain rfl := trace_call_iff.mp trace
    have answered := (obeyed_singleton.mp obeyed).read
    unfold Store.read at answered
    split at answered
    · exact ⟨_, answered⟩
    · rename_i missing
      exact absurd present (Keyed.find?_key_eq_none_iff.mp missing)

theorem readRecords_succeeds {s : Snapshot} {k : Kind} {keys : List String}
    (present : ∀ key ∈ keys, key ∈ s.keys k) {xs : List (Exchange Plane)}
    {answer : Except ReadError (List k.Record)} (trace : Trace (readRecords k keys) xs answer)
    (obeyed : Obeyed s xs) : ∃ rs, answer = .ok rs := by
  induction keys generalizing xs answer with
  | nil => exact ⟨[], (trace_done_iff.mp trace).2⟩
  | cons key rest ih =>
    rw [readRecords_cons] at trace
    obtain ⟨ys, zs, fetched, rfl, first, second⟩ := trace_bind_iff.mp trace
    obtain ⟨obeyedFirst, obeyedSecond⟩ := obeyed_append.mp obeyed
    obtain ⟨r, rfl⟩ := fetch_succeeds (present key List.mem_cons_self) first obeyedFirst
    obtain ⟨us, vs, tail, rfl, reading, last⟩ := trace_bind_iff.mp second
    obtain ⟨rs, rfl⟩ := ih (fun key member => present key (List.mem_cons_of_mem _ member)) reading
      (obeyed_append.mp obeyedSecond).1
    exact ⟨r :: rs, (trace_done_iff.mp last).2⟩

theorem readCollection_succeeds {s : Snapshot} {k : Kind} {xs : List (Exchange Plane)}
    {answer : Except ReadError (List k.Record)} (trace : Trace (readCollection k) xs answer)
    (obeyed : Obeyed s xs) : ∃ rs, answer = .ok rs := by
  obtain ⟨ys, zs, listed, rfl, first, second⟩ := trace_bind_iff.mp trace
  obtain ⟨obeyedFirst, obeyedSecond⟩ := obeyed_append.mp obeyed
  obtain rfl := trace_call_iff.mp first
  have answered : listed = .ok (s.keys k) := (obeyed_singleton.mp obeyedFirst).list
  subst answered
  exact readRecords_succeeds (fun _ member => member) second obeyedSecond

theorem readCollections_succeeds {s : Snapshot} {kinds : List Kind} {before : Snapshot}
    {xs : List (Exchange Plane)} {answer : Except ReadError Snapshot}
    (trace : Trace (readCollections kinds before) xs answer) (obeyed : Obeyed s xs) :
    ∃ after, answer = .ok after := by
  induction kinds generalizing before xs with
  | nil => exact ⟨before, (trace_done_iff.mp trace).2⟩
  | cons k rest ih =>
    obtain ⟨ys, zs, read, rfl, first, second⟩ := trace_bind_iff.mp trace
    obtain ⟨obeyedFirst, obeyedSecond⟩ := obeyed_append.mp obeyed
    obtain ⟨rs, rfl⟩ := readCollection_succeeds first obeyedFirst
    exact ih second obeyedSecond

/-- Reading a plane that does not fail succeeds. -/
theorem read_succeeds {s : Snapshot} {xs : List (Exchange Plane)}
    {answer : Except ReadError Snapshot} (trace : Trace read xs answer) (obeyed : Obeyed s xs) :
    ∃ found, answer = .ok found := by
  obtain ⟨us, rest, name, rfl, -, named⟩ := trace_bind_iff.mp trace
  obtain ⟨vs, rest, _, rfl, -, noted⟩ := trace_bind_iff.mp named
  obtain ⟨ws, rest, shown, rfl, showing, remaining⟩ := trace_bind_iff.mp noted
  obtain ⟨-, obeyedShow, obeyedRest⟩ :=
    (obeyed_append.mp (obeyed_append.mp obeyed).2).imp_right obeyed_append.mp
  obtain rfl := trace_call_iff.mp showing
  have answered : shown = .ok s.globalConfig := (obeyed_singleton.mp obeyedShow).showGlobal
  subst answered
  obtain ⟨ys, zs, collected, rfl, collecting, last⟩ := trace_bind_iff.mp remaining
  obtain ⟨whole, rfl⟩ := readCollections_succeeds collecting (obeyed_append.mp obeyedRest).1
  obtain ⟨_, _, _, rfl, -, final⟩ := trace_bind_iff.mp last
  exact ⟨whole, (trace_done_iff.mp final).2⟩

end Live
end ClusterConf
