import FarmNetworking.L1.Conservation
import FarmNetworking.L1.Endpoints

/-!
# Getting rid of all triggers

Once a batch has been started the thread may end up in its waiting loop with an
empty queue: the test of the queue and the `try_pop` behind it are not one step,
and the flush loop in between takes triggers away.  It then waits for the next
push, however long that takes, with the batch in its hands.

With the flush flag down and nobody else moving, the thread alone sends all that
it has unless it is about to get into that trap.
-/

namespace FarmNetworking
namespace L1
namespace Sender

open Foundation Runs
open Structs

structure Drained (s : State) : Prop where
  pc : s.pc = .fill
  queue : s.multicastMRPQueue = []
  batch : s.multicastRequests = []

/-- The thread waits for a trigger, or will do so, and there is none. -/
def Starved (s : State) : Prop :=
  match s.pc with
  | .flushTest | .delete _ | .blockingPop => s.multicastMRPQueue = []
  | .flushPop => s.multicastMRPQueue.length ≤ 1
  | .fill | .append _ | .test | .send => False

instance Starved.decidable (s : State) : Decidable (Starved s) := by
  unfold Starved
  split <;> infer_instance

def Pc.cost (batch : List Trigger) : Pc -> Nat
  | .fill => 2
  | .flushTest => 1
  | .flushPop => 0
  | .delete _ => 2
  | .blockingPop => 0
  | .append _ => 6
  | .test => if batch = [] then 3 else 1
  | .send => if batch = [] then 3 else 0

def distance (s : State) : Nat :=
  8 * s.multicastMRPQueue.length + 3 * s.multicastRequests.length +
    s.pc.cost s.multicastRequests

structure Alone (t : Templates) (s : State) : Prop where
  bounded : BatchBounded t.maxTriggersPerL1MRP.toNat s
  flushBurst : s.flushBurst = false

section Steps

variable {host : Host} {sums : ChecksumFunctions} {t : Templates} {s s' : State}

theorem thread_flushBurst (hmove : ThreadMove host sums t s s')
    (h : s.multicastRequests.length ≤ t.maxTriggersPerL1MRP.toNat) :
    s'.flushBurst = s.flushBurst := by
  cases hmove with
  | send hpc => rw [sendMRP_eq h]
  | _ => rfl

theorem thread_alone (hmove : ThreadMove host sums t s s') (h : Alone t s) :
    Alone t s' :=
  ⟨thread_batchBounded hmove h.bounded,
    (thread_flushBurst hmove h.bounded.left).trans h.flushBurst⟩

theorem thread_not_starved (hmove : ThreadMove host sums t s s')
    (halone : Alone t s) (h : ¬ Starved s) : ¬ Starved s' := by
  unfold Starved at h ⊢
  cases hmove with
  | send hpc =>
      rw [sendMRP_eq halone.bounded.left]
      exact id
  | flushPop hdr rest hpc hqueue =>
      rw [hpc, hqueue] at h
      dsimp only
      intro hrest
      exact h (by rw [hrest]; exact Nat.le_refl 1)
  | drained hpc hqueue =>
      rw [hpc, hqueue] at h
      exact absurd (Nat.zero_le 1) h
  | flush hpc hflag =>
      rw [halone.flushBurst] at hflag
      cases hflag
  | wait hpc hqueue =>
      rw [hpc] at h
      exact absurd hqueue h
  | noFlush hpc hflag =>
      rw [hpc] at h
      exact h
  | delete hdr hpc =>
      rw [hpc] at h
      exact h
  | more hpc hne hqueue => exact hqueue
  | _ => exact id

theorem thread_distance (hmove : ThreadMove host sums t s s')
    (hmax : t.maxTriggersPerL1MRP ≠ 0) (halone : Alone t s) (h : ¬ Starved s)
    (hgoal : ¬ Drained s) : distance s' < distance s := by
  have hpos : 0 < t.maxTriggersPerL1MRP.toNat := by
    rw [Nat.pos_iff_ne_zero]
    intro hzero
    exact hmax (UInt32.toNat_inj.mp hzero)
  unfold distance
  cases hmove with
  | more hpc hne hqueue => simp [hpc, Pc.cost]
  | enough hpc hstop =>
      have hbatch : s.multicastRequests ≠ [] := by
        intro hnone
        rcases hstop with hfull | hempty
        · rw [hnone] at hfull
          exact absurd hfull.symm (Nat.pos_iff_ne_zero.mp hpos)
        · exact hgoal ⟨hpc, hempty, hnone⟩
      simp [hpc, Pc.cost, hbatch]
  | flush hpc hflag =>
      rw [halone.flushBurst] at hflag
      cases hflag
  | noFlush hpc hflag => simp [hpc, Pc.cost]
  | flushPop hdr rest hpc hqueue =>
      simp only [hpc, hqueue, Pc.cost, List.length_cons]
      lia
  | drained hpc hqueue =>
      unfold Starved at h
      rw [hpc, hqueue] at h
      exact absurd (Nat.zero_le 1) h
  | delete hdr hpc => simp [hpc, Pc.cost]
  | wait hpc hqueue =>
      unfold Starved at h
      rw [hpc] at h
      exact absurd hqueue h
  | pop hdr rest hpc hqueue =>
      simp only [hpc, hqueue, Pc.cost, List.length_cons]
      lia
  | append hdr hpc =>
      simp only [hpc, Pc.cost, List.length_append, List.length_singleton]
      lia
  | ready hpc hbatch =>
      have hne : s.multicastRequests ≠ [] := List.ne_nil_of_length_pos hbatch
      simp [hpc, Pc.cost, hne]
  | sleep hpc hnone => simp [hpc, Pc.cost, hnone]
  | send hpc =>
      rw [sendMRP_eq halone.bounded.left]
      by_cases hnone : s.multicastRequests = []
      · simp [hpc, Pc.cost, hnone]
      · have hlength := List.length_pos_iff.mpr hnone
        simp only [hpc, Pc.cost, hnone, List.length_nil, if_false]
        lia

/-- The trap lets nobody out, and nothing is sent from it. -/
theorem thread_starved (hmove : ThreadMove host sums t s s')
    (halone : Alone t s) (h : Starved s) :
    Starved s' ∧ s'.mrps = s.mrps ∧
      s'.multicastRequests = s.multicastRequests := by
  unfold Starved at h ⊢
  cases hmove with
  | flush hpc hflag =>
      rw [halone.flushBurst] at hflag
      cases hflag
  | flushPop hdr rest hpc hqueue =>
      rw [hpc, hqueue] at h
      exact ⟨List.eq_nil_of_length_eq_zero (Nat.le_zero.mp (Nat.le_of_succ_le_succ h)),
        rfl, rfl⟩
  | drained hpc hqueue => exact ⟨hqueue, rfl, rfl⟩
  | wait hpc hqueue => exact ⟨h, rfl, rfl⟩
  | pop hdr rest hpc hqueue =>
      rw [hpc, hqueue] at h
      cases h
  | _ => simp_all

end Steps

/-!
## Runs
-/

section Runs

variable {host : Host} {sums : ChecksumFunctions} {t : Templates} {s : State}

theorem run_thread_drains (hmax : t.maxTriggersPerL1MRP ≠ 0) (halone : Alone t s)
    (h : ¬ Starved s) :
    exists k, k ≤ distance s ∧
      Drained (run (step host sums t) s (List.replicate k .thread)) := by
  refine exists_replicate (I := fun s => Alone t s ∧ ¬ Starved s) distance ?_
    ⟨halone, h⟩
  rintro s ⟨halone, h⟩ hgoal
  have hmove := thread_move host sums t s
  exact ⟨⟨thread_alone hmove halone, thread_not_starved hmove halone h⟩,
    thread_distance hmove hmax halone h hgoal⟩

theorem run_thread_starved (halone : Alone t s) (h : Starved s) (k : Nat) :
    Starved (run (step host sums t) s (List.replicate k .thread)) ∧
      (run (step host sums t) s (List.replicate k .thread)).mrps = s.mrps ∧
      (run (step host sums t) s (List.replicate k .thread)).multicastRequests =
        s.multicastRequests := by
  have hstep : forall s', Alone t s' ∧ Starved s' ∧ s'.mrps = s.mrps ∧
        s'.multicastRequests = s.multicastRequests ->
      Alone t (step host sums t s' .thread) ∧
        Starved (step host sums t s' .thread) ∧
        (step host sums t s' .thread).mrps = s.mrps ∧
        (step host sums t s' .thread).multicastRequests = s.multicastRequests := by
    rintro s' ⟨halone', hstarved, hmrps, hbatch⟩
    have hmove := thread_move host sums t s'
    rcases thread_starved hmove halone' hstarved with ⟨hnext, hsame, hkept⟩
    exact ⟨thread_alone hmove halone', hnext, hsame.trans hmrps,
      hkept.trans hbatch⟩
  exact (run_replicate_invariant
    (I := fun s' => Alone t s' ∧ Starved s' ∧ s'.mrps = s.mrps ∧
      s'.multicastRequests = s.multicastRequests) hstep
    ⟨halone, h, rfl, rfl⟩ k).right

theorem Drained.not_starved (h : Drained s) : ¬ Starved s := by
  unfold Starved
  rw [h.pc]
  exact id

theorem Drained.settled (h : Drained s) (hbalanced : Conveyor.Balanced (view s)) :
    (s.pushed : Multiset Trigger) = s.deleted + s.sent := by
  have hexits : ∑ e, (view s).left e = s.deleted + s.sent := by
    change ∑ e ∈ {Exit.deleted, Exit.sent}, (view s).left e = _
    rw [Finset.sum_pair (by decide)]
    rfl
  have hall : (s.pushed : Multiset Trigger) = s.multicastMRPQueue +
      (s.pc.popped ++ s.multicastRequests : List Trigger) +
        ∑ e, (view s).left e := hbalanced
  rw [hall, hexits, h.queue, h.pc, h.batch]
  exact zero_add _

end Runs

structure LeftAlone (host : Host) (sums : ChecksumFunctions) (t : Templates)
    (s : State) : Prop where
  drains : ¬ Starved s -> exists k, k ≤ distance s ∧
    let s' := run (step host sums t) s (List.replicate k .thread)
    Drained s' ∧ (s'.pushed : Multiset Trigger) = s'.deleted + s'.sent
  trapped : Starved s -> forall k,
    let s' := run (step host sums t) s (List.replicate k .thread)
    ¬ Drained s' ∧ s'.mrps = s.mrps ∧ s'.multicastRequests = s.multicastRequests

/--
With the flush flag down, the thread alone settles every trigger within the
distance unless it is starved.  Then it never sends what it holds.
-/
theorem settles_unless_starved (host : Host) (sums : ChecksumFunctions)
    (t : Templates) (hmax : t.maxTriggersPerL1MRP ≠ 0) (as : List Action)
    (hflag : (run (step host sums t) State.initial as).flushBurst = false) :
    LeftAlone host sums t (run (step host sums t) State.initial as) := by
  have halone : Alone t (run (step host sums t) State.initial as) :=
    ⟨(run_inv host sums t as).bounded, hflag⟩
  constructor
  · intro hstarved
    rcases run_thread_drains hmax halone hstarved with ⟨k, hk, hdrained⟩
    refine ⟨k, hk, hdrained, hdrained.settled ?_⟩
    rw [← run_append]
    exact run_balanced host sums t _
  · intro hstarved k
    have hrun : Starved (run (step host sums t) _ _) ∧ _ :=
      run_thread_starved halone hstarved k
    exact ⟨fun hdrained => hdrained.not_starved hrun.left, hrun.right⟩

/-- A flush that ends between two tests leaves the thread with a batch it holds. -/
def flushedBetweenTests : List Action :=
  requestAndPush (requestedEvent 1, false) ++ List.replicate 4 .thread ++
    requestAndPush (requestedEvent 2, false) ++ [.thread, .setFlushBurst true] ++
    List.replicate 3 .thread ++ [.setFlushBurst false]

theorem settles_unless_starved_flushed :
    Starved (run (step loopbackHost ChecksumFunctions.reference loopbackTemplates)
        State.initial flushedBetweenTests) ∧
      (run (step loopbackHost ChecksumFunctions.reference loopbackTemplates)
        State.initial flushedBetweenTests).multicastRequests.length = 1 ∧
      LeftAlone loopbackHost ChecksumFunctions.reference loopbackTemplates
        (run (step loopbackHost ChecksumFunctions.reference loopbackTemplates)
          State.initial flushedBetweenTests) :=
  ⟨by decide, rfl, settles_unless_starved loopbackHost ChecksumFunctions.reference
    loopbackTemplates (by decide) flushedBetweenTests (by decide)⟩

end Sender
end L1
end FarmNetworking
