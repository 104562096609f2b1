import FarmNetworking.Monitoring.Registry

/-!
# Null pointers

Every operation tests the pointer that it uses, and behind a reconnect all
pointers of the role are set.  `setTimeout` uses two pointers and tests one.  An
error in `tryToReceiveState` sets the other one to null.
-/

namespace FarmNetworking
namespace Monitoring
namespace IPCHandler

open Foundation Runs
open Socket ZMQHandler

def NoNullCall (s : State) : Prop :=
  s.crashed = false

/-- `setTimeout` does not get to `stateReceiver_` while that one alone is null. -/
def TestsSuffice (s : State) (op : Operation) : Prop :=
  ¬ op.NullTimeout s

theorem initial_noNullCall : NoNullCall State.initial := rfl

theorem perform_noNullCall {op : Operation} {s : State} (h : NoNullCall s) :
    NoNullCall (perform s op) <-> TestsSuffice s op := by
  constructor
  · intro hnext hnull
    rcases perform_nullTimeout h hnull with ⟨t, _, hcrash⟩
    rw [NoNullCall, hcrash] at hnext
    cases hnext
  · intro hnull
    cases hg : op.guard with
    | none =>
        rw [guard_eq_none hg]
        exact (closeAll_frame shutDownOrder s).right.right.trans h
    | some g =>
        have hmoves := perform_cases hg h hnull
        rw [NoNullCall, moves_crashed hmoves, (generated_frame g s).right.left]
        exact h

theorem step_noNullCall {s : State} (op : Operation) (h : NoNullCall s) :
    NoNullCall (step s op) <-> TestsSuffice s op := by
  rw [step_of_not_crashed h]
  exact perform_noNullCall h

theorem no_null_call_iff (ops : List Operation) :
    Along NoNullCall step State.initial ops <->
      StepsMeet TestsSuffice step State.initial ops :=
  along_iff_stepsMeet (I := fun _ => True) (fun _ _ _ => trivial)
    (fun _ op _ h => step_noNullCall op h) trivial initial_noNullCall ops

/-- After an error on the state receiver alone, a timeout can no longer be set. -/
theorem setTimeout_null_stateReceiver :
    ¬ Along NoNullCall step State.initial
      [.tryToReceiveState Calls.succeed (.error 88),
        .setTimeout 100 Calls.succeed none none] := by
  intro halong
  have hcrashed : (run step State.initial
      [.tryToReceiveState Calls.succeed (.error 88),
        .setTimeout 100 Calls.succeed none none]).crashed = true := by
    decide
  have halive := along_run halong
  rw [NoNullCall, hcrashed] at halive
  cases halive

end IPCHandler
end Monitoring
end FarmNetworking
