import ClusterConf.Proofs.Acceptance
import ClusterConf.Proofs.Deletions
import ClusterConf.Proofs.Remainder
set_option autoImplicit false

/-!
When snapshots can be compared. Main statement: comparisons fail just on empty and repeated keys,
which a check does not accept, and which applies of accepted snapshots to an empty plane never
bring about.
-/
namespace ClusterConf

open Program
open Comparison (between stages)

namespace Difference

open Keyed (key keysOf keyField)

variable {α : Type} [Keyed α]

/-- An error tells of the first item whose key is empty or stands before. -/
def Rejects (xs : List α) (e : KeyError) : Prop :=
  ∃ before x after, xs = before ++ x :: after ∧ Usable before ∧
    (key x = "" ∧ e = .emptyKey (keyField α) ∨
      key x ≠ "" ∧ key x ∈ keysOf before ∧ e = .duplicateKey (key x))

theorem Rejects.not_usable {xs : List α} {e : KeyError} (rejects : Rejects xs e) :
    ¬ Usable xs := by
  obtain ⟨before, x, after, rfl, -, ⟨empty, -⟩ | ⟨-, repeated, -⟩⟩ := rejects
  · exact fun usable => usable.1 (by simp [empty])
  · intro usable
    have once := usable.2
    rw [Keyed.keysOf_append, List.nodup_append] at once
    exact once.2.2 _ repeated _ (by simp) rfl

theorem Usable.concat {xs : List α} {x : α} (usable : Usable xs) (filled : key x ≠ "")
    (fresh : key x ∉ keysOf xs) : Usable (xs ++ [x]) := by
  have keys : keysOf (xs ++ [x]) = keysOf xs ++ [key x] := Keyed.keysOf_append _ _
  refine ⟨?_, ?_⟩
  · rw [keys]
    simpa using ⟨usable.1, filled⟩
  · rw [keys]
    exact usable.2.append (List.nodup_singleton _) (by simpa using fresh)

/-- Keys are checked one after the other, the good ones put aside. -/
theorem rejects_of_checkKeys {xs before : List α} {seen : List String} {e : KeyError}
    (usable : Usable before) (gone : ∀ k, k ∈ seen ↔ k ∈ keysOf before)
    (failed : checkKeys xs seen = .error e) : Rejects (before ++ xs) e := by
  induction xs generalizing before seen with
  | nil => cases failed
  | cons x rest ih =>
    rw [checkKeys] at failed
    by_cases empty : key x = ""
    · rw [if_pos empty] at failed
      exact ⟨before, x, rest, rfl, usable, .inl ⟨empty, (Except.error.inj failed).symm⟩⟩
    · rw [if_neg empty] at failed
      by_cases repeated : key x ∈ seen
      · rw [if_pos (by simpa using repeated)] at failed
        exact ⟨before, x, rest, rfl, usable,
          .inr ⟨empty, (gone _).mp repeated, (Except.error.inj failed).symm⟩⟩
      · rw [if_neg (by simpa using repeated)] at failed
        have more : ∀ k, k ∈ key x :: seen ↔ k ∈ keysOf (before ++ [x]) := fun k => by
          rw [Keyed.keysOf_append, List.mem_append, ← gone k, List.mem_cons, or_comm]
          simp
        have rejects := ih (usable.concat empty fun inside => repeated ((gone _).mpr inside)) more
          failed
        rwa [List.append_assoc] at rejects

theorem checkKeys_rejects {xs : List α} {e : KeyError} (failed : checkKeys xs [] = .error e) :
    Rejects xs e := by
  have nothing : Usable ([] : List α) := ⟨List.not_mem_nil, List.nodup_nil⟩
  exact rejects_of_checkKeys nothing (fun _ => .rfl) failed

/-- The old list is blamed before the new one. -/
theorem between_rejects [BEq α] {old new : List α} {e : KeyError}
    (failed : between old new = .error e) :
    Rejects old e ∨ Usable old ∧ Rejects new e := by
  unfold between at failed
  cases oldKeys : checkKeys old [] with
  | error first =>
    rw [oldKeys] at failed
    obtain rfl := Except.error.inj failed
    exact .inl (checkKeys_rejects oldKeys)
  | ok done =>
    rw [oldKeys] at failed
    cases newKeys : checkKeys new [] with
    | error second =>
      rw [newKeys] at failed
      obtain rfl := Except.error.inj failed
      exact .inr ⟨(checkKeys_eq_ok_iff.mp oldKeys).1, checkKeys_rejects newKeys⟩
    | ok done =>
      rw [newKeys] at failed
      cases failed

end Difference

namespace Comparison

open Difference (Usable Rejects)

variable {old new : Snapshot} {e : CompareError}

/-- An error names the first kind with bad keys, in creation order. -/
structure Blames (old new : Snapshot) (e : CompareError) : Prop where
  first : ∃ before after, Kind.creationOrder = before ++ e.kind :: after ∧
    ∀ k ∈ before, Usable (old.records k) ∧ Usable (new.records k)
  fault : Rejects (old.records e.kind) e.source ∨
    Usable (old.records e.kind) ∧ Rejects (new.records e.kind) e.source

theorem addKind_rejects {c : Comparison} {k : Kind} (failed : addKind old new c k = .error e) :
    e.kind = k ∧ (Rejects (old.records e.kind) e.source ∨
      Usable (old.records e.kind) ∧ Rejects (new.records e.kind) e.source) := by
  unfold addKind differenceOf at failed
  cases found : Difference.between (old.records k) (new.records k) with
  | error source =>
    rw [found] at failed
    obtain rfl := Except.error.inj failed
    exact ⟨rfl, Difference.between_rejects found⟩
  | ok difference =>
    rw [found] at failed
    cases failed

/-- Kinds are compared in their order, up to the first that fails. -/
theorem foldlM_rejects {kinds : List Kind} {c : Comparison}
    (failed : kinds.foldlM (addKind old new) c = .error e) :
    ∃ before after, kinds = before ++ e.kind :: after ∧
      (∀ k ∈ before, Usable (old.records k) ∧ Usable (new.records k)) ∧
      (Rejects (old.records e.kind) e.source ∨
        Usable (old.records e.kind) ∧ Rejects (new.records e.kind) e.source) := by
  induction kinds generalizing c with
  | nil => cases failed
  | cons k kinds ih =>
    rw [List.foldlM_cons] at failed
    cases first : addKind old new c k with
    | error source =>
      rw [first] at failed
      obtain rfl := Except.error.inj failed
      obtain ⟨rfl, fault⟩ := addKind_rejects first
      exact ⟨[], kinds, rfl, List.forall_mem_nil _, fault⟩
    | ok next =>
      rw [first] at failed
      obtain ⟨usableOld, usableNew, -⟩ := addKind_eq_ok_iff.mp first
      obtain ⟨before, after, rfl, usable, fault⟩ := ih failed
      exact ⟨k :: before, after, rfl, List.forall_mem_cons.mpr ⟨⟨usableOld, usableNew⟩, usable⟩,
        fault⟩

theorem between_blames (failed : between old new = .error e) : Blames old new e := by
  unfold between at failed
  cases folded : Kind.creationOrder.foldlM (addKind old new) none with
  | error first =>
    rw [folded] at failed
    obtain rfl := Except.error.inj failed
    obtain ⟨before, after, split, usable, fault⟩ := foldlM_rejects folded
    exact ⟨⟨before, after, split, usable⟩, fault⟩
  | ok c =>
    rw [folded] at failed
    cases failed

theorem between_fails_iff :
    (∃ e, between old new = .error e) ↔
      ∃ k, ¬ Usable (old.records k) ∨ ¬ Usable (new.records k) := by
  constructor
  · rintro ⟨e, failed⟩
    refine ⟨e.kind, ?_⟩
    rcases (between_blames failed).fault with rejects | ⟨-, rejects⟩
    · exact .inl rejects.not_usable
    · exact .inr rejects.not_usable
  · rintro ⟨k, bad⟩
    cases compared : between old new with
    | error e => exact ⟨e, rfl⟩
    | ok c =>
      obtain ⟨keyedOld, keyedNew, -⟩ := between_describes compared
      rcases bad with bad | bad
      · exact absurd ((wellKeyed_iff old).mp keyedOld k) bad
      · exact absurd ((wellKeyed_iff new).mp keyedNew k) bad

end Comparison

/-- Trials keep keys good unless entities without a key are created. -/
theorem Follows.wellKeyed {s t : Snapshot} {ts : List Trial} (keyed : s.WellKeyed)
    (filled : ∀ trial ∈ ts, ∀ e, trial.mutation = .entity .create e → e.key ≠ "")
    (follows : Follows Store.Faulty s (ts.map Trial.exchange) t) : t.WellKeyed := by
  induction ts generalizing s with
  | nil =>
    obtain rfl := follows.nil_inv
    exact keyed
  | cons trial ts ih =>
    obtain ⟨filledFirst, filledRest⟩ := List.forall_mem_cons.mp filled
    obtain ⟨m, answer⟩ := trial
    cases follows with
    | cons first rest =>
      cases answer with
      | ok done =>
        obtain ⟨admitted, rfl⟩ := Mutation.accepted keyed.distinct first
        exact ih (Mutation.wellKeyed_perform keyed admitted filledFirst) filledRest rest
      | error source =>
        obtain rfl := Mutation.failed first
        exact ih keyed filledRest rest

namespace Reconciler

open Store (Faulty)

/-- At any moment of an apply the keys are as good as they were. -/
theorem apply_wellKeyed {desired s t : Snapshot} {xs front : List (Exchange Plane)}
    {r : Except Error ApplyOutcome} (keyed : s.WellKeyed)
    (trace : Trace (apply desired false).run xs r) (prefixed : front <+: xs)
    (follows : Follows Faulty s front t) : t.WellKeyed := by
  rcases apply_tries trace prefixed follows with
    rfl | ⟨c, ts, us, compared, trials, first, changing⟩
  · exact keyed
  · refine changing.wellKeyed keyed fun trial member => ?_
    have tried := List.mem_map_of_mem (f := Trial.mutation) (first.subset member)
    exact Comparison.filled_of_mem compared (trials.tried_prefix.subset tried)

/-- The snapshots that an empty local plane can come to hold by applies of accepted snapshots, each
of which may fail or be cut off at any call. -/
inductive Reached (knownTypes : List String) : Snapshot → Prop
  | emptied {s : Snapshot} (none : ∀ k, s.records k = []) : Reached knownTypes s
  | applied {W : Type} (machine : Server Machine W) (faults : Faults) (plane : LocalPlane)
      (world : W) (desired : Snapshot) (moment : Nat)
      (accepted : (Validation.check knownTypes desired).errors = [])
      (earlier : Reached knownTypes plane.state) :
      Reached knownTypes
        ((apply desired false).run.stateAfter (faults.impose (LocalPlane.on machine))
          (0, plane, world) moment).2.1.state

theorem Reached.wellKeyed {knownTypes : List String} {s : Snapshot}
    (reached : Reached knownTypes s) : s.WellKeyed := by
  induction reached with
  | emptied none =>
    refine (Comparison.wellKeyed_iff _).mpr fun k => ?_
    rw [none k]
    exact ⟨List.not_mem_nil, List.nodup_nil⟩
  | applied machine faults plane world desired moment accepted earlier ih =>
    obtain ⟨front, prefixed, follows⟩ :=
      faults.stateAfter_faulty machine (apply desired false).run plane world moment
    exact apply_wellKeyed ih (exec_trace _ _ (0, plane, world)) prefixed follows

end Reconciler

namespace Validation

open Difference (Usable Rejects)
open Reconciler (Reached)

/--
A check finds no error exactly in what is acceptable. A comparison fails exactly if a key on either
side is empty or repeated, and then names the first such kind in creation order. So if the desired
snapshot was accepted then only keys of the live snapshot can be to blame, and none is if accepted
snapshots are all that has been applied to a plane that was empty.
-/
theorem acceptance_shields (knownTypes : List String) :
    (∀ s, (check knownTypes s).errors = [] ↔ Acceptable knownTypes s) ∧
      (∀ old new, (∃ e, between old new = .error e) ↔
        ∃ k, ¬ Usable (old.records k) ∨ ¬ Usable (new.records k)) ∧
      (∀ old new e, between old new = .error e → Comparison.Blames old new e) ∧
      ∀ desired, (check knownTypes desired).errors = [] →
        (∀ live e, between live desired = .error e → Rejects (live.records e.kind) e.source) ∧
        ∀ live, Reached knownTypes live → ∃ c, between live desired = .ok c := by
  refine ⟨fun s => errors_eq_nil_iff, fun old new => Comparison.between_fails_iff,
    fun old new e => Comparison.between_blames, fun desired accepted => ?_⟩
  have keyed := (errors_eq_nil_iff.mp accepted).wellKeyed
  refine ⟨fun live e failed => ?_, fun live reached => ?_⟩
  · rcases (Comparison.between_blames failed).fault with rejects | ⟨-, rejects⟩
    · exact rejects
    · exact absurd ((Comparison.wellKeyed_iff desired).mp keyed e.kind) rejects.not_usable
  · exact Comparison.between_succeeds reached.wellKeyed keyed

/-- An apply of a small cluster to an empty plane, whose second mutation fails: what is then there
can be compared with what was wanted, while a queue without a name cannot. -/
theorem acceptance_shields_small :
    let desired := Snapshot.small "staff" ⟨0x3ff0000000000000⟩
    let faults : Faults := fun call => if call = 33 then some (.backend "gone") else none
    let live := ((Reconciler.apply desired false).run.stateAfter
      (faults.impose (LocalPlane.on obliging)) (0, .inMemory .empty, ()) 60).2.1.state
    let bad : Snapshot := { desired with clusterQueues := [{ name := "" }] }
    (check valueTypes desired).errors = [] ∧ Reached valueTypes live ∧ live.entityCount = 1 ∧
      (∃ c, between live desired = .ok c) ∧ (∃ e, between bad desired = .error e) ∧
      ∀ e, between bad desired = .error e → Rejects (bad.records e.kind) e.source := by
  intro desired faults live bad
  have accepted : (check valueTypes desired).errors = [] := by decide +kernel
  have reached : Reached valueTypes live :=
    .applied obliging faults (.inMemory .empty) () desired 60 accepted
      (.emptied fun k => Snapshot.records_empty k)
  obtain ⟨-, fails, -, shielded⟩ := acceptance_shields valueTypes
  obtain ⟨blamed, compares⟩ := shielded desired accepted
  exact ⟨accepted, reached, by decide +kernel, compares live reached,
    (fails bad desired).mpr ⟨.clusterQueue, .inl fun usable => usable.1 (by decide)⟩,
    blamed bad⟩

end Validation

end ClusterConf
