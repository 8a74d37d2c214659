import BrokerControl.Service.Program

/-!
# Runs of single steps

How the steps that programs are joined of run: refusals and local results make no call, and a call
is made once, its failure inside its context.
-/

namespace BrokerControl

namespace Program

variable {α β : Type} (transport : Transport) (past : List Call)

@[simp] theorem run_refuse (fault : Fault) :
    run transport past (refuse fault : Program α) = (.error (.ofFault fault), past) := rfl

@[simp] theorem run_ofResult (result : Except Fault α) :
    run transport past (ofResult result) = (result.mapError Failure.ofFault, past) := by
  cases result <;> rfl

@[simp] theorem run_call (context : String) (c : Call) :
    run transport past (call context c) =
      (Failure.inContext context (transport past c), past ++ [c]) := rfl

/-- A program goes on with what its first call is answered. -/
theorem run_call_bind (context : String) (c : Call) (f : c.Answer → Program β) :
    run transport past (call context c >>= f) =
      match transport past c with
      | .error e => (.error (e.within context), past ++ [c])
      | .ok answer => run transport (past ++ [c]) (f answer) := by
  rw [run_bind, run_call]
  cases transport past c <;> rfl

/-- A program goes on only after a success. -/
theorem run_bind_ok {p : Program α} {f : α → Program β} {a : α} {calls : List Call}
    (h : run transport past p = (.ok a, calls)) :
    run transport past (p >>= f) = run transport calls (f a) := by
  rw [run_bind, h]

/-- A failure ends a program. -/
theorem run_bind_error {p : Program α} {f : α → Program β} {e : Failure} {calls : List Call}
    (h : run transport past p = (.error e, calls)) :
    run transport past (p >>= f) = (.error e, calls) := by
  rw [run_bind, h]

end Program

end BrokerControl
