import ClusterConf.Program
set_option autoImplicit false

/-!
What passes between a program and whoever answers it. A trace is one way through the tree of a
program. Main statements: traces of two programs in a row are put together from the traces of
each, and a run against a server follows a trace, state by state.
-/
namespace ClusterConf

/-- A request with the answer it got. -/
structure Exchange (I : Interface) where
  request : I.Request
  answer : I.Answer request

/-- Whoever answers the requests of an interface, and the state that this changes. -/
abbrev Server (I : Interface) (σ : Type) := (r : I.Request) → StateM σ (I.Answer r)

/-- A server may answer like this in one state and go to the other. -/
def Server.Step {I : Interface} {σ : Type} (serve : Server I σ) (before : σ) (x : Exchange I)
    (after : σ) : Prop :=
  serve x.request before = (x.answer, after)

/-- Exchanges in a row, each a step from the state that the one before has left. -/
inductive Follows {I : Interface} {σ : Type} (step : σ → Exchange I → σ → Prop) :
    σ → List (Exchange I) → σ → Prop
  | nil (s : σ) : Follows step s [] s
  | cons {before between after : σ} {x : Exchange I} {xs : List (Exchange I)}
      (first : step before x between) (rest : Follows step between xs after) :
      Follows step before (x :: xs) after

namespace Follows

variable {I : Interface} {σ τ : Type} {step : σ → Exchange I → σ → Prop}

theorem nil_inv {s t : σ} (follows : Follows step s [] t) : t = s := by
  cases follows
  rfl

theorem singleton_iff {s t : σ} {x : Exchange I} : Follows step s [x] t ↔ step s x t := by
  constructor
  · intro follows
    cases follows with
    | cons first rest =>
      obtain rfl := rest.nil_inv
      exact first
  · exact fun first => .cons first (.nil t)

theorem append_inv {s t : σ} {xs ys : List (Exchange I)} (follows : Follows step s (xs ++ ys) t) :
    ∃ m, Follows step s xs m ∧ Follows step m ys t := by
  induction xs generalizing s with
  | nil => exact ⟨s, .nil s, follows⟩
  | cons x xs ih =>
    cases follows with
    | cons first rest =>
      obtain ⟨m, front, back⟩ := ih rest
      exact ⟨m, .cons first front, back⟩

/-- Steps of one kind seen as steps of another. -/
theorem map {step' : τ → Exchange I → τ → Prop} (view : σ → τ)
    (same : ∀ s x t, step s x t → step' (view s) x (view t)) {s t : σ} {xs : List (Exchange I)}
    (follows : Follows step s xs t) : Follows step' (view s) xs (view t) := by
  induction follows with
  | nil s => exact .nil _
  | cons first _ ih => exact .cons (same _ _ _ first) ih

end Follows

namespace Program

variable {I : Interface} {α β σ : Type}

/-- One way in which a program may go: its requests with their answers, and its value. -/
inductive Trace : Program I α → List (Exchange I) → α → Prop
  | done (a : α) : Trace (.done a) [] a
  | ask {r : I.Request} {next : I.Answer r → Program I α} {xs : List (Exchange I)} {a : α}
      (answer : I.Answer r) (rest : Trace (next answer) xs a) :
      Trace (.ask r next) (⟨r, answer⟩ :: xs) a

theorem trace_done_iff {a b : α} {xs : List (Exchange I)} :
    Trace (.done a) xs b ↔ xs = [] ∧ b = a := by
  constructor
  · intro trace
    cases trace
    exact ⟨rfl, rfl⟩
  · rintro ⟨rfl, rfl⟩
    exact .done b

theorem trace_ask_iff {r : I.Request} {next : I.Answer r → Program I α} {xs : List (Exchange I)}
    {a : α} :
    Trace (.ask r next) xs a ↔ ∃ answer ys, xs = ⟨r, answer⟩ :: ys ∧ Trace (next answer) ys a := by
  constructor
  · intro trace
    cases trace with
    | ask answer rest => exact ⟨answer, _, rfl, rest⟩
  · rintro ⟨answer, ys, rfl, rest⟩
    exact .ask answer rest

theorem trace_bind_iff {p : Program I α} {f : α → Program I β} {xs : List (Exchange I)} {b : β} :
    Trace (p >>= f) xs b ↔ ∃ ys zs a, xs = ys ++ zs ∧ Trace p ys a ∧ Trace (f a) zs b := by
  induction p generalizing xs with
  | done a =>
    rw [done_bind]
    constructor
    · intro trace
      exact ⟨[], xs, a, rfl, .done a, trace⟩
    · rintro ⟨ys, zs, a', rfl, first, second⟩
      obtain ⟨rfl, rfl⟩ := trace_done_iff.mp first
      exact second
  | ask r next ih =>
    rw [ask_bind, trace_ask_iff]
    constructor
    · rintro ⟨answer, ys, rfl, rest⟩
      obtain ⟨front, back, a, rfl, first, second⟩ := (ih answer).mp rest
      exact ⟨⟨r, answer⟩ :: front, back, a, rfl, .ask answer first, second⟩
    · rintro ⟨ys, zs, a, rfl, first, second⟩
      obtain ⟨answer, front, rfl, rest⟩ := trace_ask_iff.mp first
      exact ⟨answer, front ++ zs, rfl, (ih answer).mpr ⟨front, zs, a, rfl, rest, second⟩⟩

/-- The traces of two attempts in a row: the second is made only if the first succeeded. -/
theorem trace_attempt_bind {ε : Type} {p : ExceptT ε (Program I) α}
    {f : α → ExceptT ε (Program I) β} {xs : List (Exchange I)} {r : Except ε β}
    (trace : Trace (p >>= f).run xs r) :
    ∃ ys zs first, xs = ys ++ zs ∧ Trace p.run ys first ∧
      match first with
      | .ok a => Trace (f a).run zs r
      | .error e => zs = [] ∧ r = .error e := by
  rw [ExceptT.run_bind] at trace
  obtain ⟨ys, zs, first, rfl, tried, rest⟩ := trace_bind_iff.mp trace
  refine ⟨ys, zs, first, rfl, tried, ?_⟩
  cases first with
  | ok a => exact rest
  | error e => exact trace_done_iff.mp rest

theorem trace_attempt_ok {ε : Type} {p : ExceptT ε (Program I) α}
    {f : α → ExceptT ε (Program I) β} {xs : List (Exchange I)} {b : β}
    (trace : Trace (p >>= f).run xs (.ok b)) :
    ∃ ys zs a, xs = ys ++ zs ∧ Trace p.run ys (.ok a) ∧ Trace (f a).run zs (.ok b) := by
  obtain ⟨ys, zs, first, rfl, tried, rest⟩ := trace_attempt_bind trace
  cases first with
  | ok a => exact ⟨ys, zs, a, rfl, tried, rest⟩
  | error e => cases rest.2

/-- The traces of a program that cannot fail, taken as an attempt. -/
theorem trace_lift_iff {ε : Type} {p : Program I α}
    {xs : List (Exchange I)} {r : Except ε α} :
    Trace (ExceptT.lift p : ExceptT ε (Program I) α).run xs r ↔ ∃ a, Trace p xs a ∧ r = .ok a := by
  have mapped : (ExceptT.lift p : ExceptT ε (Program I) α).run = p >>= fun a => pure (.ok a) := rfl
  rw [mapped, trace_bind_iff]
  constructor
  · rintro ⟨ys, zs, a, rfl, traced, last⟩
    obtain ⟨rfl, rfl⟩ := trace_done_iff.mp last
    exact ⟨a, by rwa [List.append_nil], rfl⟩
  · rintro ⟨a, traced, rfl⟩
    exact ⟨xs, [], a, by rw [List.append_nil], traced, .done _⟩

/-- Every request that the program may make is allowed. -/
inductive Only (allowed : I.Request → Prop) : Program I α → Prop
  | done (a : α) : Only allowed (.done a)
  | ask {r : I.Request} {next : I.Answer r → Program I α} (first : allowed r)
      (rest : ∀ answer, Only allowed (next answer)) : Only allowed (.ask r next)

namespace Only

variable {allowed : I.Request → Prop}

theorem request {r : I.Request} (first : allowed r) : Only allowed (.ask r .done) :=
  .ask first fun answer => .done answer

theorem mono {allowed' : I.Request → Prop} {p : Program I α} (only : Only allowed p)
    (wider : ∀ r, allowed r → allowed' r) : Only allowed' p := by
  induction only with
  | done a => exact .done a
  | ask first _ ih => exact .ask (wider _ first) ih

/-- The second program is known to go on with a value that the first one can end with. -/
theorem bind_of_trace {p : Program I α} {f : α → Program I β} (first : Only allowed p)
    (second : ∀ xs a, Trace p xs a → Only allowed (f a)) : Only allowed (p >>= f) := by
  induction first with
  | done a => exact second [] a (.done a)
  | ask first _ ih =>
    exact .ask first fun answer => ih answer fun _ a trace => second _ a (.ask answer trace)

theorem bind {p : Program I α} {f : α → Program I β} (first : Only allowed p)
    (second : ∀ a, Only allowed (f a)) : Only allowed (p >>= f) :=
  first.bind_of_trace fun _ a _ => second a

theorem trace {p : Program I α} (only : Only allowed p) {xs : List (Exchange I)} {a : α}
    (trace : Trace p xs a) : ∀ x ∈ xs, allowed x.request := by
  induction trace with
  | done a => simp
  | ask answer rest ih =>
    cases only with
    | ask first only => exact List.forall_mem_cons.mpr ⟨first, ih (only answer)⟩

theorem lift {ε : Type} {p : Program I α} (only : Only allowed p) :
    Only allowed (ExceptT.lift p : ExceptT ε (Program I) α).run :=
  only.bind fun _ => .done _

theorem attempt {ε : Type} {p : ExceptT ε (Program I) α} {f : α → ExceptT ε (Program I) β}
    (first : Only allowed p.run) (second : ∀ a, Only allowed (f a).run) :
    Only allowed (p >>= f).run := by
  rw [ExceptT.run_bind]
  refine first.bind fun r => ?_
  cases r with
  | ok a => exact second a
  | error e => exact .done _

theorem ite {ε : Type} {c : Prop} [Decidable c] {p q : ExceptT ε (Program I) α}
    (first : Only allowed p.run) (second : Only allowed q.run) :
    Only allowed (if c then p else q).run := by
  split
  · exact first
  · exact second

end Only

/-- The value of a run against a server, and the state it leaves. -/
def exec (serve : Server I σ) (p : Program I α) (s : σ) : α × σ := p.run serve s

def journal (serve : Server I σ) : Program I α → σ → List (Exchange I)
  | .done _, _ => []
  | .ask r next, s => ⟨r, (serve r s).1⟩ :: (next (serve r s).1).journal serve (serve r s).2

/-- The state after the first requests of a run, or after all of them if they are fewer. -/
def stateAfter (serve : Server I σ) : Program I α → σ → Nat → σ
  | .done _, s, _ => s
  | .ask _ _, s, 0 => s
  | .ask r next, s, n + 1 => (next (serve r s).1).stateAfter serve (serve r s).2 n

theorem exec_ask (serve : Server I σ) (r : I.Request) (next : I.Answer r → Program I α) (s : σ) :
    (Program.ask r next).exec serve s = (next (serve r s).1).exec serve (serve r s).2 := rfl

theorem exec_trace (serve : Server I σ) (p : Program I α) (s : σ) :
    Trace p (p.journal serve s) (p.exec serve s).1 := by
  induction p generalizing s with
  | done a => exact .done a
  | ask r next ih => exact .ask (serve r s).1 (ih (serve r s).1 (serve r s).2)

theorem exec_follows (serve : Server I σ) (p : Program I α) (s : σ) :
    Follows serve.Step s (p.journal serve s) (p.exec serve s).2 := by
  induction p generalizing s with
  | done a => exact .nil s
  | ask r next ih => exact .cons rfl (ih (serve r s).1 (serve r s).2)

/-- Each state of a run is reached by a first part of its exchanges. -/
theorem stateAfter_follows (serve : Server I σ) (p : Program I α) (s : σ) (n : Nat) :
    ∃ xs ys, p.journal serve s = xs ++ ys ∧ Follows serve.Step s xs (p.stateAfter serve s n) := by
  induction p generalizing s n with
  | done a => exact ⟨[], [], rfl, .nil s⟩
  | ask r next ih =>
    cases n with
    | zero => exact ⟨[], _, rfl, .nil s⟩
    | succ n =>
      obtain ⟨xs, ys, split, follows⟩ := ih (serve r s).1 (serve r s).2 n
      exact ⟨⟨r, (serve r s).1⟩ :: xs, ys, congrArg (List.cons _) split, .cons rfl follows⟩

theorem exec_bind (serve : Server I σ) (p : Program I α) (f : α → Program I β) (s : σ) :
    (p >>= f).exec serve s = (f (p.exec serve s).1).exec serve (p.exec serve s).2 := by
  induction p generalizing s with
  | done a => rfl
  | ask r next ih => exact ih (serve r s).1 (serve r s).2

theorem journal_bind (serve : Server I σ) (p : Program I α) (f : α → Program I β) (s : σ) :
    (p >>= f).journal serve s =
      p.journal serve s ++ (f (p.exec serve s).1).journal serve (p.exec serve s).2 := by
  induction p generalizing s with
  | done a => rfl
  | ask r next ih => exact congrArg (List.cons _) (ih (serve r s).1 (serve r s).2)

/-- The run of two attempts in a row: the second is made only if the first succeeded. -/
theorem exec_attempt_bind {ε : Type} (serve : Server I σ) (p : ExceptT ε (Program I) α)
    (f : α → ExceptT ε (Program I) β) (s : σ) :
    (p >>= f).run.exec serve s =
      match (p.run.exec serve s).1 with
      | .ok a => (f a).run.exec serve (p.run.exec serve s).2
      | .error e => (.error e, (p.run.exec serve s).2) := by
  rw [ExceptT.run_bind, exec_bind]
  cases (p.run.exec serve s).1 <;> rfl

theorem journal_attempt_bind {ε : Type} (serve : Server I σ) (p : ExceptT ε (Program I) α)
    (f : α → ExceptT ε (Program I) β) (s : σ) :
    (p >>= f).run.journal serve s = p.run.journal serve s ++
      match (p.run.exec serve s).1 with
      | .ok a => (f a).run.journal serve (p.run.exec serve s).2
      | .error _ => [] := by
  rw [ExceptT.run_bind, journal_bind]
  cases (p.run.exec serve s).1 <;> rfl

end Program
end ClusterConf
