import FarmNetworking.Foundation.Splits
import FarmNetworking.L1.Conservation

/-!
# The order of the triggers

The queue is first in, first out, and an MRP is filled from the back of the batch.
So the newest trigger of an MRP stands in its first block.  Read from the last
block to the first, one MRP after the other, the triggers come in the order in
which they were pushed.

Abstractly the thread deals the pushed triggers out to two piles, the deleted ones
and the kept ones, and what it has not taken yet is the queue.
-/

namespace FarmNetworking
namespace L1
namespace Sender

open Foundation Runs
open Structs

def MRP.backwards (mrp : MRP) : List Trigger :=
  mrp.triggers.reverse

def Pc.doomed : Pc -> List Trigger
  | .delete hdr => [hdr]
  | .append _ => []
  | .fill | .flushTest | .flushPop | .blockingPop | .test | .send => []

def Pc.kept : Pc -> List Trigger
  | .delete _ => []
  | .append hdr => [hdr]
  | .fill | .flushTest | .flushPop | .blockingPop | .test | .send => []

def State.discarded (s : State) : List Trigger :=
  s.deleted ++ s.pc.doomed

/-- What was placed in MRPs, what waits in the batch and what is to join it. -/
def State.retained (s : State) : List Trigger :=
  s.mrps.flatMap MRP.backwards ++ s.multicastRequests ++ s.pc.kept

def Dealt (s : State) : Prop :=
  exists taken, Splits taken s.discarded s.retained ∧
    s.pushed = taken ++ s.multicastMRPQueue

section Steps

variable {host : Host} {sums : ChecksumFunctions} {t : Templates} {s s' : State}

theorem dealt_same (h : Dealt s) (hpushed : s'.pushed = s.pushed)
    (hqueue : s'.multicastMRPQueue = s.multicastMRPQueue)
    (hdiscarded : s'.discarded = s.discarded)
    (hretained : s'.retained = s.retained) : Dealt s' := by
  unfold Dealt
  rw [hpushed, hqueue, hdiscarded, hretained]
  exact h

theorem environment_dealt (hmove : EnvironmentMove s s') (h : Dealt s) :
    Dealt s' := by
  cases hmove with
  | push producer hdr hready =>
      rcases h with ⟨taken, hsplits, hpushed⟩
      refine ⟨taken, hsplits, ?_⟩
      change s.pushed ++ [_] = taken ++ (s.multicastMRPQueue ++ [_])
      rw [hpushed, List.append_assoc]
  | _ => exact dealt_same h rfl rfl rfl rfl

theorem dealt_pop {hdr : Trigger} {rest : List Trigger} (h : Dealt s)
    (hqueue : s.multicastMRPQueue = hdr :: rest)
    (hpushed : s'.pushed = s.pushed) (hrest : s'.multicastMRPQueue = rest)
    (hpile : (s'.discarded = s.discarded ++ [hdr] ∧ s'.retained = s.retained) ∨
      (s'.discarded = s.discarded ∧ s'.retained = s.retained ++ [hdr])) :
    Dealt s' := by
  rcases h with ⟨taken, hsplits, hold⟩
  refine ⟨taken ++ [hdr], ?_, ?_⟩
  · rcases hpile with ⟨hdiscarded, hretained⟩ | ⟨hdiscarded, hretained⟩
    · rw [hdiscarded, hretained]
      exact hsplits.left hdr
    · rw [hdiscarded, hretained]
      exact hsplits.right hdr
  · rw [hpushed, hrest, hold, hqueue, List.append_assoc]
    rfl

theorem thread_dealt (hmove : ThreadMove host sums t s s')
    (hbound : s.multicastRequests.length ≤ t.maxTriggersPerL1MRP.toNat)
    (h : Dealt s) : Dealt s' := by
  cases hmove with
  | flushPop hdr rest hpc hqueue =>
      refine dealt_pop h hqueue rfl rfl (Or.inl ⟨?_, ?_⟩)
      · simp [State.discarded, Pc.doomed, hpc]
      · simp [State.retained, Pc.kept, hpc]
  | pop hdr rest hpc hqueue =>
      refine dealt_pop h hqueue rfl rfl (Or.inr ⟨?_, ?_⟩)
      · simp [State.discarded, Pc.doomed, hpc]
      · simp [State.retained, Pc.kept, hpc]
  | send hpc =>
      rw [sendMRP_eq hbound]
      refine dealt_same h rfl rfl ?_ ?_
      · simp [State.discarded, Pc.doomed, hpc]
      · simp [State.retained, MRP.backwards, Pc.kept, hpc]
  | wait hpc hqueue => exact h
  | _ =>
      refine dealt_same h rfl rfl ?_ ?_
      · simp [State.discarded, Pc.doomed, *]
      · simp [State.retained, Pc.kept, *]

end Steps

/-!
## Runs
-/

section Runs

variable (host : Host) (sums : ChecksumFunctions) (t : Templates)

theorem run_dealt (as : List Action) :
    Dealt (run (step host sums t) State.initial as) := by
  have hstep : forall s a, Inv t s ∧ Dealt s ->
      Inv t (step host sums t s a) ∧ Dealt (step host sums t s a) := by
    rintro s a ⟨hinv, hdealt⟩
    refine ⟨step_inv host sums t s a hinv, ?_⟩
    exact step_of_moves (P := fun _ s' => Dealt s') host sums t s a
      (fun _ hmove => environment_dealt hmove hdealt)
      (fun _ hmove => thread_dealt hmove hinv.bounded.left hdealt)
  have hinitial : Inv t State.initial ∧ Dealt State.initial :=
    ⟨initial_inv t, [], Splits.nil, rfl⟩
  exact (run_invariant hstep hinitial as).right

end Runs

theorem Dealt.retained_sublist {s : State} (h : Dealt s) :
    s.retained.Sublist s.pushed := by
  rcases h with ⟨taken, hsplits, hpushed⟩
  rw [hpushed]
  exact hsplits.right_sublist.trans (List.sublist_append_left _ _)

theorem Dealt.sent_sublist {s : State} (h : Dealt s) :
    (s.mrps.flatMap MRP.backwards).Sublist s.pushed := by
  have hretained : (s.mrps.flatMap MRP.backwards).Sublist s.retained := by
    rw [State.retained, List.append_assoc]
    exact List.sublist_append_left _ _
  exact hretained.trans h.retained_sublist

theorem Dealt.mem_pushed {s : State} (h : Dealt s) {x : Trigger}
    (hx : x ∈ s.pushed) :
    x ∈ s.discarded ∨ x ∈ s.retained ∨ x ∈ s.multicastMRPQueue := by
  rcases h with ⟨taken, hsplits, hpushed⟩
  rw [hpushed, List.mem_append] at hx
  rcases hx with htaken | hqueue
  · rcases List.mem_append.mp (hsplits.perm.mem_iff.mp htaken) with hfirst | hsecond
    · exact Or.inl hfirst
    · exact Or.inr (Or.inl hsecond)
  · exact Or.inr (Or.inr hqueue)

theorem Recorded.serials_increase {t : Templates} {s : State}
    (h : Recorded t s) {triggers : List Trigger}
    (hsublist : triggers.Sublist s.pushed) :
    (triggers.map Trigger.serial).Pairwise (fun i j => i < j) := by
  have hserials : (triggers.map Trigger.serial).Sublist
      (List.range s.pushed.length) := by
    rw [← h.serials]
    exact hsublist.map Trigger.serial
  exact List.Pairwise.sublist hserials List.pairwise_lt_range

structure InPushOrder (s : State) : Prop where
  dealt : Dealt s
  sent : (s.mrps.flatMap MRP.backwards).Sublist s.pushed
  increasing : ((s.mrps.flatMap MRP.backwards).map Trigger.serial).Pairwise
    (fun i j => i < j)
  newestFirst : forall mrp, mrp ∈ s.mrps ->
    (mrp.triggers.map Trigger.serial).Pairwise (fun i j => j < i)

/--
In every interleaving the triggers leave the thread in the order in which they were
pushed, from MRP to MRP.  Inside of one MRP the newest comes first.
-/
theorem sent_in_push_order (host : Host) (sums : ChecksumFunctions)
    (t : Templates) (as : List Action) :
    InPushOrder (run (step host sums t) State.initial as) := by
  have hdealt := run_dealt host sums t as
  have hinv := run_inv host sums t as
  generalize run (step host sums t) State.initial as = s at hdealt hinv
  have hsent := hdealt.sent_sublist
  refine ⟨hdealt, hsent, hinv.recorded.serials_increase hsent, ?_⟩
  intro mrp hmrp
  have hpart : mrp.backwards.Sublist (s.mrps.flatMap MRP.backwards) := by
    rw [List.flatMap_def]
    exact List.sublist_flatten_of_mem (List.mem_map_of_mem hmrp)
  have hincrease := hinv.recorded.serials_increase (hpart.trans hsent)
  rwa [MRP.backwards, List.map_reverse, List.pairwise_reverse] at hincrease

end Sender
end L1
end FarmNetworking
