set_option autoImplicit false

/-!
Programs that talk to another side: a finite tree whose nodes are the requests a program makes and
whose branches are the answers it may get. A program says nothing about who answers; `Program.run`
hands each request to a server and continues with the answer.
-/
namespace ClusterConf

/-- The requests that may be made, and the type of the answer to each. -/
structure Interface where
  Request : Type
  Answer : Request → Type

/-- A program over an interface: finished with a value, or waiting for the answer to a request. -/
inductive Program (I : Interface) (α : Type) where
  | done (a : α)
  | ask (r : I.Request) (next : I.Answer r → Program I α)

namespace Program

variable {I J : Interface} {α β γ : Type}

/-- Runs `p`, then the program chosen by its value. -/
def bind : Program I α → (α → Program I β) → Program I β
  | .done a, f => f a
  | .ask r next, f => .ask r fun answer => (next answer).bind f

instance : Monad (Program I) where
  pure := .done
  bind := bind

/-- The program that makes one request and returns its answer. -/
def request (r : I.Request) : Program I (I.Answer r) :=
  .ask r .done

/-- Runs a program, each request answered by `serve`. -/
def run {m : Type → Type} [Monad m] (serve : (r : I.Request) → m (I.Answer r)) :
    Program I α → m α
  | .done a => pure a
  | .ask r next => do
    let answer ← serve r
    (next answer).run serve

@[simp] theorem pure_eq_done (a : α) : (pure a : Program I α) = .done a := rfl

@[simp] theorem done_bind (a : α) (f : α → Program I β) : (Program.done a >>= f) = f a := rfl

@[simp] theorem ask_bind (r : I.Request) (next : I.Answer r → Program I α)
    (f : α → Program I β) :
    (Program.ask r next >>= f) = .ask r fun answer => next answer >>= f := rfl

private theorem bind_done_comp (p : Program I α) : p.bind (fun a => .done (id a)) = p := by
  induction p with
  | done a => rfl
  | ask r next ih => exact congrArg (Program.ask r) (funext ih)

private theorem bind_bind (p : Program I α) (f : α → Program I β) (g : β → Program I γ) :
    (p.bind f).bind g = p.bind fun a => (f a).bind g := by
  induction p with
  | done a => rfl
  | ask r next ih => exact congrArg (Program.ask r) (funext ih)

instance : LawfulMonad (Program I) :=
  LawfulMonad.mk' _ bind_done_comp (fun _ _ => rfl) bind_bind

section Run

variable {m : Type → Type} [Monad m] (serve : (r : I.Request) → m (I.Answer r))

@[simp] theorem run_done (a : α) : (Program.done a : Program I α).run serve = pure a := rfl

theorem run_ask (r : I.Request) (next : I.Answer r → Program I α) :
    (Program.ask r next).run serve = serve r >>= fun answer => (next answer).run serve := rfl

@[simp] theorem run_request [LawfulMonad m] (r : I.Request) :
    (request r).run serve = serve r := by
  simp [request, run_ask]

/-- A run of two programs in a row is the run of the first followed by the run of the second. -/
theorem run_bind [LawfulMonad m] (p : Program I α) (f : α → Program I β) :
    (p >>= f).run serve = p.run serve >>= fun a => (f a).run serve := by
  induction p with
  | done a => simp
  | ask r next ih => simp [run_ask, ih]

end Run

end Program
end ClusterConf
