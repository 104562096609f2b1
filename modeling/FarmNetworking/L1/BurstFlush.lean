import FarmNetworking.L1.Conservation
import FarmNetworking.L1.Endpoints

/-!
# Flushing at the end of a burst

When the flush flag is up the thread deletes what waits in the queue.  Triggers
that are already in the batch are out of reach of the flush loop, and so are
triggers that still wait when the flag falls.  This module says which runs are
free of stale triggers, and shows a run that is not.
-/

namespace FarmNetworking
namespace L1
namespace Sender

open Foundation Runs
open Structs

/--
The thread sees the flag up only with an empty batch, and sees it down only when
no trigger waits that was pushed before it last saw the flag up.
-/
def FlushedInTime (s : State) (a : Action) : Prop :=
  a = .thread -> s.pc = .flushTest ->
    (s.flushBurst = true -> s.multicastRequests = []) ∧
      (s.flushBurst = false ->
        forall x, x ∈ s.multicastMRPQueue -> s.flushMark ≤ x.serial)

instance FlushedInTime.decidable (s : State) (a : Action) :
    Decidable (FlushedInTime s a) := by
  unfold FlushedInTime
  infer_instance

structure Fresh (s : State) : Prop where
  mark : s.flushMark ≤ s.pushed.length
  batch : forall x, x ∈ s.multicastRequests -> s.flushMark ≤ x.serial
  waiting : s.pc = .blockingPop ->
    forall x, x ∈ s.multicastMRPQueue -> s.flushMark ≤ x.serial
  popped : forall hdr, s.pc = .append hdr -> s.flushMark ≤ hdr.serial

theorem initial_fresh : Fresh State.initial := by
  refine ⟨Nat.le_refl _, ?_, ?_, ?_⟩
  · intro x hx
    cases hx
  · intro _ x hx
    cases hx
  · intro hdr hpc
    cases hpc

section Steps

variable {host : Host} {sums : ChecksumFunctions} {t : Templates} {s s' : State}

theorem environment_fresh (hmove : EnvironmentMove s s') (h : Fresh s) :
    Fresh s' := by
  cases hmove with
  | idle => exact h
  | setFlushBurst b => exact ⟨h.mark, h.batch, h.waiting, h.popped⟩
  | request producer hdr hfree hflag =>
      exact ⟨h.mark, h.batch, h.waiting, h.popped⟩
  | push producer hdr hready =>
      refine ⟨?_, h.batch, ?_, h.popped⟩
      · change s.flushMark ≤ (s.pushed ++ [_]).length
        rw [List.length_append]
        exact Nat.le_trans h.mark (Nat.le_add_right _ _)
      · intro hpc x hx
        rcases List.mem_append.mp hx with hold | hnew
        · exact h.waiting hpc x hold
        · rw [List.mem_singleton.mp hnew]
          exact h.mark

theorem Fresh.goto (h : Fresh s) {pc : Pc} (hwait : pc ≠ .blockingPop)
    (happend : forall hdr, pc ≠ .append hdr) : Fresh { s with pc := pc } :=
  ⟨h.mark, h.batch, fun hpc => absurd hpc hwait,
    fun hdr hpc => absurd hpc (happend hdr)⟩

theorem thread_fresh (hmove : ThreadMove host sums t s s')
    (hC : FlushedInTime s .thread)
    (hbound : s.multicastRequests.length ≤ t.maxTriggersPerL1MRP.toNat)
    (h : Fresh s) : Fresh s' := by
  cases hmove with
  | more hpc hne hqueue => exact h.goto (by decide) (fun _ => by simp)
  | enough hpc hstop => exact h.goto (by decide) (fun _ => by simp)
  | flush hpc hflag =>
      have hempty := (hC rfl hpc).left hflag
      refine ⟨Nat.le_refl _, ?_, nofun, nofun⟩
      intro x hx
      rw [hempty] at hx
      cases hx
  | noFlush hpc hflag =>
      exact ⟨h.mark, h.batch, fun _ => (hC rfl hpc).right hflag,
        nofun⟩
  | flushPop hdr rest hpc hqueue =>
      exact ⟨h.mark, h.batch, nofun, nofun⟩
  | drained hpc hqueue =>
      refine ⟨h.mark, h.batch, ?_, nofun⟩
      intro _ x hx
      rw [hqueue] at hx
      cases hx
  | delete hdr hpc =>
      exact ⟨h.mark, h.batch, nofun, nofun⟩
  | wait hpc hqueue => exact h
  | pop hdr rest hpc hqueue =>
      refine ⟨h.mark, h.batch, nofun, ?_⟩
      intro hdr' hf
      cases hf
      apply h.waiting hpc
      rw [hqueue]
      exact List.mem_cons_self ..
  | append hdr hpc =>
      refine ⟨h.mark, ?_, nofun, nofun⟩
      intro x hx
      rcases List.mem_append.mp hx with hold | hnew
      · exact h.batch x hold
      · rw [List.mem_singleton.mp hnew]
        exact h.popped hdr hpc
  | ready hpc hpos => exact h.goto (by decide) (fun _ => by simp)
  | sleep hpc hnone => exact h.goto (by decide) (fun _ => by simp)
  | send hpc =>
      rw [sendMRP_eq hbound]
      refine ⟨h.mark, ?_, nofun, nofun⟩
      intro x hx
      cases hx

theorem step_fresh (hinv : Inv t s) (h : Fresh s) {a : Action}
    (hC : FlushedInTime s a) : Fresh (step host sums t s a) := by
  by_cases ha : a = .thread
  · subst ha
    exact thread_fresh (thread_move host sums t s) hC hinv.bounded.left h
  · exact environment_fresh (environment_move host sums t s ha) h

theorem step_flushMark (h : Fresh s) (a : Action) :
    s.flushMark ≤ (step host sums t s a).flushMark := by
  refine step_of_moves (P := fun s s' => s.flushMark ≤ s'.flushMark)
    host sums t s a ?_ ?_
  · intro s' hmove
    cases hmove <;> exact Nat.le_refl _
  · intro s' hmove
    cases hmove with
    | flush hpc hflag => exact h.mark
    | _ => exact Nat.le_refl _

end Steps

/-!
## Runs
-/

section Runs

variable (host : Host) (sums : ChecksumFunctions) (t : Templates)

theorem run_fresh {as : List Action}
    (hmeet : StepsMeet FlushedInTime (step host sums t) State.initial as) :
    Inv t (run (step host sums t) State.initial as) ∧
      Fresh (run (step host sums t) State.initial as) :=
  run_invariant_of_stepsMeet (I := fun s => Inv t s ∧ Fresh s)
    (fun s a h hC => ⟨step_inv host sums t s a h.left,
      step_fresh h.left h.right hC⟩)
    ⟨initial_inv t, initial_fresh⟩ hmeet

theorem run_flushMark {s : State} (hinv : Inv t s) (hfresh : Fresh s)
    {as : List Action} (hmeet : StepsMeet FlushedInTime (step host sums t) s as) :
    s.flushMark ≤ (run (step host sums t) s as).flushMark := by
  have h := run_invariant_of_stepsMeet
    (I := fun s' => s.flushMark ≤ s'.flushMark ∧ Inv t s' ∧ Fresh s')
    (fun s' a h hC => ⟨Nat.le_trans h.left (step_flushMark h.right.right a),
      step_inv host sums t s' a h.right.left,
      step_fresh h.right.left h.right.right hC⟩)
    ⟨Nat.le_refl _, hinv, hfresh⟩ hmeet
  exact h.left

/--
When all steps flush in time, a trigger that was pushed before the thread saw
the flag up is in no batch that it sends afterwards.
-/
theorem flushed_not_sent (before after : List Action)
    (hmeet : StepsMeet FlushedInTime (step host sums t) State.initial
      (before ++ .thread :: after))
    (hpc : (run (step host sums t) State.initial before).pc = .flushTest)
    (hflag : (run (step host sums t) State.initial before).flushBurst = true) :
    forall x, x ∈ (run (step host sums t) State.initial before).pushed ->
      x ∉ (asyncSendMRP host sums t Trigger.hdr
        (run (step host sums t) State.initial
          (before ++ .thread :: after)).multicastRequests).placed := by
  intro x hx hplaced
  rcases (stepsMeet_append _ _ _).mp hmeet with ⟨hbefore, hC, hafter⟩
  rcases run_fresh host sums t hbefore with ⟨hinv, hfresh⟩
  have hlast := (run_fresh host sums t hmeet).right.batch x
  rw [run_append, run_cons] at hplaced hlast
  generalize run (step host sums t) State.initial before = s at *
  have hmark : (step host sums t s .thread).flushMark = s.pushed.length := by
    rw [step, thread, hpc]
    dsimp only
    rw [if_pos hflag]
  have hle := run_flushMark host sums t (step_inv host sums t s .thread hinv)
    (step_fresh hinv hfresh hC) hafter
  rw [asyncSendMRP_eq] at hplaced
  have hbatch := hlast (List.mem_reverse.mp (List.mem_of_mem_take hplaced))
  have hserial := hinv.recorded.serial_lt hx
  lia

end Runs

/-!
## Two runs

In the first run the flag falls after the queue was emptied.  In the second run
a trigger is in the batch already when the thread sees the flag up.
-/

def queuedAtFlush : List Action :=
  requestAndPush (requestedEvent 1, false) ++ [.thread, .setFlushBurst true]

/-- The trigger is deleted and the next burst begins. -/
def deletedThenSent : List Action :=
  [.thread, .thread, .setFlushBurst false, .thread] ++
    requestAndPush (requestedEvent 2, false) ++ [.thread, .thread, .thread, .thread]

theorem flushed_not_sent_queued :
    (run (step loopbackHost ChecksumFunctions.reference loopbackTemplates)
      State.initial queuedAtFlush).pushed.length = 1 ∧ forall x,
      x ∈ (run (step loopbackHost ChecksumFunctions.reference loopbackTemplates)
        State.initial queuedAtFlush).pushed ->
      x ∉ (asyncSendMRP loopbackHost ChecksumFunctions.reference
        loopbackTemplates Trigger.hdr
        (run (step loopbackHost ChecksumFunctions.reference loopbackTemplates)
          State.initial
          (queuedAtFlush ++ .thread :: deletedThenSent)).multicastRequests).placed := by
  constructor
  · decide
  · exact flushed_not_sent loopbackHost ChecksumFunctions.reference
      loopbackTemplates queuedAtFlush deletedThenSent (by decide) (by decide)
      (by decide)

def batchedAtFlush : List Action :=
  requestAndPush (requestedEvent 1, false) ++
    [.thread, .thread, .thread, .thread] ++
    requestAndPush (requestedEvent 2, false) ++ [.thread, .setFlushBurst true]

theorem batched_sent_after_flush :
    (run (step loopbackHost ChecksumFunctions.reference loopbackTemplates)
      State.initial batchedAtFlush).pc = .flushTest ∧
    (run (step loopbackHost ChecksumFunctions.reference loopbackTemplates)
      State.initial batchedAtFlush).flushBurst = true ∧
    (run (step loopbackHost ChecksumFunctions.reference loopbackTemplates)
      State.initial (batchedAtFlush ++ .thread :: deletedThenSent)).pc = .send ∧
    exists x,
      x ∈ (run (step loopbackHost ChecksumFunctions.reference loopbackTemplates)
        State.initial batchedAtFlush).pushed ∧
      x ∈ (asyncSendMRP loopbackHost ChecksumFunctions.reference
        loopbackTemplates Trigger.hdr
        (run (step loopbackHost ChecksumFunctions.reference loopbackTemplates)
          State.initial (batchedAtFlush ++
            .thread :: deletedThenSent)).multicastRequests).placed := by
  refine ⟨by decide, by decide, by decide, ?_⟩
  refine ⟨{ serial := 0, hdr := generateTriggerHDR (requestedEvent 1) false },
    by decide, ?_⟩
  rw [asyncSendMRP_eq]
  decide

end Sender
end L1
end FarmNetworking
