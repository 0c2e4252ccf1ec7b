import ClusterConf.Proofs.Enactment
set_option autoImplicit false

/-!
Equality of records as comparisons see it. Main statements: it is symmetric and transitive, and
equal records have the same key; only a host that holds a NaN does not equal itself.
-/
namespace ClusterConf

theorem Double.beq_iff {a b : Double} : (a == b) = true ↔
    a.isNaN = false ∧ b.isNaN = false ∧ (a = b ∨ a.isZero = true ∧ b.isZero = true) := by
  change (!a.isNaN && !b.isNaN && (a.bits == b.bits || (a.isZero && b.isZero))) = true ↔ _
  have bits : a.bits = b.bits ↔ a = b := by
    cases a
    cases b
    simp
  simp [bits, and_assoc]

theorem Double.beq_comm (a b : Double) : (a == b) = (b == a) := by
  rw [Bool.eq_iff_iff, Double.beq_iff, Double.beq_iff, eq_comm (a := a)]
  tauto

theorem Double.beq_trans {a b c : Double} (first : (a == b) = true) (second : (b == c) = true) :
    (a == c) = true := by
  obtain ⟨number, -, same | ⟨zero, -⟩⟩ := Double.beq_iff.mp first
  · exact same ▸ second
  · obtain ⟨-, number', same' | ⟨-, zero'⟩⟩ := Double.beq_iff.mp second
    · exact same' ▸ first
    · exact Double.beq_iff.mpr ⟨number, number', .inr ⟨zero, zero'⟩⟩

section Lists

variable {α : Type} [BEq α]

theorem beq_comm_of_forall (comm : ∀ x y : α, (x == y) = (y == x)) (xs ys : List α) :
    (xs == ys) = (ys == xs) := by
  induction xs generalizing ys with
  | nil => cases ys <;> rfl
  | cons x xs ih =>
    cases ys with
    | nil => rfl
    | cons y ys => rw [List.cons_beq_cons, List.cons_beq_cons, comm, ih]

theorem beq_trans_of_forall (trans : ∀ x y z : α, (x == y) = true → (y == z) = true →
    (x == z) = true) {xs ys zs : List α} (first : (xs == ys) = true) (second : (ys == zs) = true) :
    (xs == zs) = true := by
  induction xs generalizing ys zs with
  | nil => cases ys <;> cases zs <;> simp_all
  | cons x xs ih =>
    cases ys with
    | nil => cases first
    | cons y ys =>
      cases zs with
      | nil => cases second
      | cons z zs =>
        rw [List.cons_beq_cons, Bool.and_eq_true] at first second ⊢
        exact ⟨trans x y z first.1 second.1, ih first.2 second.2⟩

theorem exists_beq_of_mem {xs ys : List α} (equal : (xs == ys) = true) {y : α} (member : y ∈ ys) :
    ∃ x ∈ xs, (x == y) = true := by
  induction xs generalizing ys with
  | nil => cases ys <;> simp_all
  | cons x xs ih =>
    cases ys with
    | nil => cases member
    | cons z ys =>
      rw [List.cons_beq_cons, Bool.and_eq_true] at equal
      rcases List.mem_cons.mp member with rfl | inside
      · exact ⟨x, List.mem_cons_self, equal.1⟩
      · obtain ⟨w, among, same⟩ := ih equal.2 inside
        exact ⟨w, List.mem_cons_of_mem x among, same⟩

end Lists

theorem Table.beq_comm (s t : Table Double) : (s == t) = (t == s) := by
  refine beq_comm_of_forall (fun e f => ?_) s.entries t.entries
  change (e.1 == f.1 && e.2 == f.2) = (f.1 == e.1 && f.2 == e.2)
  rw [BEq.comm (a := e.1), Double.beq_comm]

theorem Table.beq_trans {s t u : Table Double} (first : (s == t) = true)
    (second : (t == u) = true) : (s == u) = true := by
  have entries : ∀ e f g : String × Double, (e == f) = true → (f == g) = true →
      (e == g) = true := by
    intro e f g left right
    obtain ⟨name, value⟩ := Bool.and_eq_true_iff.mp left
    obtain ⟨name', value'⟩ := Bool.and_eq_true_iff.mp right
    exact Bool.and_eq_true_iff.mpr ⟨PartialEquivBEq.trans name name', Double.beq_trans value value'⟩
  have left : (s.entries == t.entries) = true := first
  have right : (t.entries == u.entries) = true := second
  exact beq_trans_of_forall entries left right

theorem ExecHost.beq_comm (g h : ExecHost) : (g == h) = (h == g) := by
  have name : (g.name == h.name) = (h.name == g.name) := BEq.comm
  have load := Table.beq_comm g.loadScaling h.loadScaling
  have usage := Table.beq_comm g.usageScaling h.usageScaling
  have values : (g.complexValues == h.complexValues) = (h.complexValues == g.complexValues) :=
    BEq.comm (a := g.complexValues.entries)
  have texts : ∀ xs ys : List String, (xs == ys) = (ys == xs) := fun _ _ => BEq.comm
  change instBEqExecHost.beq g h = instBEqExecHost.beq h g
  simp only [instBEqExecHost.beq, name, load, usage, values, texts g.userLists,
    texts g.xuserLists, texts g.projects, texts g.xprojects, texts g.reportVariables]

theorem ExecHost.beq_trans {f g h : ExecHost} (first : (f == g) = true)
    (second : (g == h) = true) : (f == h) = true := by
  have left : instBEqExecHost.beq f g = true := first
  have right : instBEqExecHost.beq g h = true := second
  change instBEqExecHost.beq f h = true
  have values : ∀ s t : Table String, (s == t) = true ↔ s.entries = t.entries :=
    fun s t => beq_iff_eq (a := s.entries)
  simp only [instBEqExecHost.beq, Bool.and_eq_true, beq_iff_eq, values] at left right ⊢
  obtain ⟨name, load, usage, complexValues, userLists, xuserLists, projects, rest⟩ := left
  obtain ⟨name', load', usage', complexValues', userLists', xuserLists', projects', rest'⟩ := right
  exact ⟨name.trans name', Table.beq_trans load load', Table.beq_trans usage usage',
    complexValues.trans complexValues', userLists.trans userLists', xuserLists.trans xuserLists',
    projects.trans projects', rest.1.trans rest'.1, rest.2.trans rest'.2⟩

theorem Kind.beq_comm {k : Kind} (r d : k.Record) : (r == d) = (d == r) := by
  by_cases host : k = .execHost
  · subst host
    exact ExecHost.beq_comm r d
  · rw [Bool.eq_iff_iff, Kind.beq_iff host, Kind.beq_iff host]
    exact eq_comm

theorem Kind.key_eq_of_beq {k : Kind} {r d : k.Record} (equal : (r == d) = true) :
    k.key r = k.key d := by
  by_cases host : k = .execHost
  · subst host
    have unfolded : instBEqExecHost.beq r d = true := equal
    simp only [instBEqExecHost.beq, Bool.and_eq_true, beq_iff_eq] at unfolded
    exact unfolded.1
  · rw [(Kind.beq_iff host).mp equal]

theorem Kind.beq_trans {k : Kind} {r d e : k.Record} (first : (r == d) = true)
    (second : (d == e) = true) : (r == e) = true := by
  by_cases host : k = .execHost
  · subst host
    exact ExecHost.beq_trans first second
  · rw [Kind.beq_iff host] at first second ⊢
    exact first.trans second

namespace Kind

open Keyed (keysOf lookup)

variable {k : Kind}

/-- One record or two equal ones; a host that holds a NaN is not even equal to itself. -/
def Same (r d : k.Record) : Prop := r = d ∨ (r == d) = true

theorem Same.flip {r d : k.Record} (same : Same r d) : Same d r :=
  same.imp Eq.symm fun equal => (beq_comm d r).trans equal

theorem Same.of_same {r d e : k.Record} (left : Same r e) (right : Same d e) : Same r d := by
  rcases left with rfl | equal
  · exact right.flip
  · rcases right with rfl | equal'
    · exact .inr equal
    · exact .inr (beq_trans equal ((beq_comm e d).trans equal'))

/-- Collections that hold the same under each key. -/
def Alike (xs ys : List k.Record) : Prop :=
  ∀ key, Option.Rel Same (lookup key xs) (lookup key ys)

theorem Alike.of_alike {xs ys zs : List k.Record} (left : Alike xs zs) (right : Alike ys zs) :
    Alike xs ys := by
  intro key
  have leftRel := left key
  have rightRel := right key
  cases found : lookup key zs with
  | none =>
    rw [found] at leftRel rightRel
    cases xsFound : lookup key xs <;> cases ysFound : lookup key ys <;> simp_all
  | some e =>
    rw [found] at leftRel rightRel
    cases xsFound : lookup key xs <;> cases ysFound : lookup key ys <;> simp_all
    exact leftRel.of_same rightRel

/-- Under the same keys there are versions of the same records. -/
theorem alike_of_forall {xs ys : List k.Record} (left : (keysOf xs).Nodup)
    (right : (keysOf ys).Nodup) (keys : ∀ key, key ∈ keysOf ys → key ∈ keysOf xs)
    (versions : ∀ r ∈ xs, ∃ d ∈ ys, k.key d = k.key r ∧ Same r d) : Alike xs ys := by
  intro key
  by_cases present : key ∈ keysOf xs
  · obtain ⟨r, held, rfl⟩ := Keyed.mem_keysOf.mp present
    obtain ⟨d, version, sameKey, same⟩ := versions r held
    have found := Keyed.lookup_eq_some right version
    have sameKey : Keyed.key d = Keyed.key r := sameKey
    rw [sameKey] at found
    rw [Keyed.lookup_eq_some left held, found]
    exact .some same
  · have absent : key ∉ keysOf ys := fun inside => present (keys key inside)
    rw [Keyed.lookup_eq_none_iff.mpr present, Keyed.lookup_eq_none_iff.mpr absent]
    exact .none

end Kind

end ClusterConf
