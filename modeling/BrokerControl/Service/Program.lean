import BrokerControl.Failure
import BrokerControl.Service.Call

/-!
# Programs of calls

A program ends with a result, or makes a call and goes on with its answer. What it does is thus
fixed apart from any control plane: `Program.runM` runs it in a monad that answers calls,
`Program.run` against a transport, which may look at all calls before it answers, and keeps the
calls that were made. A failure ends a program; `run_bind` says that a program goes on where the
one before it ended.
-/

namespace BrokerControl

/-- A computation that calls the control plane. -/
inductive Program (α : Type) where
  /-- The end of the computation. -/
  | done (result : Except Failure α)
  /-- A call, and what follows each answer. -/
  | ask (call : Call) (next : Except Failure call.Answer → Program α)

namespace Program

variable {α β : Type}

/-- Goes on with the value of a program; a failure ends both. -/
def bind (p : Program α) (f : α → Program β) : Program β :=
  match p with
  | done (.ok a) => f a
  | done (.error e) => done (.error e)
  | ask call next => ask call fun answer ↦ bind (next answer) f

instance : Monad Program where
  pure a := done (.ok a)
  bind := bind

/-- Going on with the bare value changes nothing. -/
theorem bind_done (p : Program α) : bind p (fun a ↦ done (.ok a)) = p := by
  induction p with
  | done r => cases r <;> rfl
  | ask c next ih => exact congrArg (ask c) (funext ih)

/-- It does not matter which of three programs are joined first. -/
theorem bind_bind {γ : Type} (p : Program α) (f : α → Program β) (g : β → Program γ) :
    bind (bind p f) g = bind p fun a ↦ bind (f a) g := by
  induction p with
  | done r => cases r <;> rfl
  | ask c next ih => exact congrArg (ask c) (funext ih)

instance : LawfulMonad Program :=
  LawfulMonad.mk' Program bind_done (fun _ _ ↦ rfl) bind_bind

/-- Ends with a failure. -/
def fail (f : Failure) : Program α := done (.error f)

/-- Ends with a fault. -/
def refuse (f : Fault) : Program α := fail (Failure.ofFault f)

/-- Goes on with a result that needs no call. -/
def ofResult : Except Fault α → Program α
  | .ok a => done (.ok a)
  | .error f => refuse f

/-- One call, whose failure gets a context. -/
def call (context : String) (c : Call) : Program c.Answer :=
  ask c fun answer ↦ done (Failure.inContext context answer)

/-- Runs a program in a monad that answers calls. -/
def runM {m : Type → Type} [Monad m] (answer : (c : Call) → m (Except Failure c.Answer)) :
    Program α → m (Except Failure α)
  | done r => Pure.pure r
  | ask c next => answer c >>= fun a ↦ runM answer (next a)

/-- Answers calls, each in the light of all calls before it. -/
abbrev Transport := List Call → (c : Call) → Except Failure c.Answer

/-- Runs a program after the calls `past`; the result, and all calls that have then been made. -/
def run (transport : Transport) (past : List Call) : Program α → Except Failure α × List Call
  | done r => (r, past)
  | ask c next => run transport (past ++ [c]) (next (transport past c))

/-! ## Runs of joined programs -/

/-- A value is the end of a run that makes no call. -/
@[simp] theorem run_pure (t : Transport) (past : List Call) (a : α) :
    run t past (pure a : Program α) = (.ok a, past) := rfl

/-- A program goes on where the one before it ended. -/
theorem run_bind (t : Transport) (past : List Call) (p : Program α) (f : α → Program β) :
    run t past (p >>= f) = match run t past p with
      | (.ok a, calls) => run t calls (f a)
      | (.error e, calls) => (.error e, calls) := by
  show run t past (bind p f) = _
  induction p generalizing past with
  | done r => cases r <;> rfl
  | ask c next ih => simp only [bind, run]; exact ih _ _

end Program

end BrokerControl
