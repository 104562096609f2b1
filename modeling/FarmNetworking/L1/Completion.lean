import FarmNetworking.L1.EndToEnd

/-!
# Bringing everything to the wire

The sender waits while the queue of frames is full, and a packet handler has
nothing to do while it is empty.  So one of them can go on whenever something is
left to be sent, and what is left becomes less with every such step.  Requests
that come in meanwhile are not needed for that, with one exception: a thread that
is starved does not go on without them.
-/

namespace FarmNetworking
namespace L1
namespace Transmission

open Foundation Runs
open Structs Socket PFringHandler

structure Complete {n : Nat} (s : State n) : Prop where
  drained : Sender.Drained s.sender
  settled : Settled s

/-- The steps of the thread, and of handlers whose packets the driver accepts. -/
def Own {n : Nat} : Action n -> Prop
  | .sender a => a = .thread
  | .handler _ rc => 0 ≤ rc

/-!
## What is left to be done
-/

def phaseDistance : Phase -> Nat
  | .popped _ => 3
  | .sending _ _ => 2
  | .sent _ _ => 1
  | .idle => 0

section Distance

variable {n : Nat} (t : Templates)

def endpointCount : Nat :=
  (t.l1UnicastRequestHdrs ++ t.l1MulticastRequestHdrs).length

def netDistance (s : PFringHandler.State n) : Nat :=
  4 * s.asyncSendData.length + ∑ i, phaseDistance (s.handlers i)

/-- A frame that is not yet enqueued costs five steps, four of them a handler's. -/
def callDistance (s : State n) : Nat :=
  match s.unsent with
  | some rest => 5 * rest.length + 1
  | none => if s.sender.pc = .send then 5 * endpointCount t + 2 else 0

def distance (s : State n) : Nat :=
  (5 * endpointCount t + 3) * Sender.distance s.sender + callDistance t s +
    netDistance s.net

end Distance

/-!
## One step less
-/

/-- A call of `Async_SendMRP` is in progress only where the thread makes it. -/
def Calling {n : Nat} (s : State n) : Prop :=
  s.unsent ≠ none -> s.sender.pc = .send

structure Alone {n : Nat} (t : Templates) (s : State n) : Prop where
  sender : Sender.Alone t s.sender
  notStarved : ¬ Sender.Starved s.sender
  calling : Calling s

section Steps

variable {n : Nat} {host : Host} {sums : ChecksumFunctions} {t : Templates}
  {ring : Fin n -> Bool} {s : State n}

theorem step_calling (h : Calling s) (a : Action n) :
    Calling (step host sums t ring s a) := by
  cases a with
  | handler i rc => exact h
  | sender a =>
      unfold step
      dsimp only
      split
      · next ha =>
          unfold sendFrames
          split
          · exact fun _ => ha.right
          · exact fun hnone => absurd rfl hnone
          · split
            · exact fun _ => ha.right
            · exact h
      · next ha =>
          intro hunsent
          exact ((sender_step_quiet host sums t s.sender ha).right
            (h hunsent)).left

theorem handler_distance {net : PFringHandler.State n} {i : Fin n}
    (h : net.asyncSendData ≠ [] ∨ net.handlers i ≠ .idle) :
    netDistance (doSendQueuedFrames ring net i 0) < netDistance net := by
  have hsum := Conveyor.sum_update_add phaseDistance net.handlers i
  unfold netDistance doSendQueuedFrames
  cases hphase : net.handlers i with
  | idle =>
      rw [hphase] at hsum
      cases hqueue : net.asyncSendData with
      | nil =>
          rcases h with hsome | hbusy
          · exact absurd hqueue hsome
          · exact absurd hphase hbusy
      | cons data rest =>
          have hpopped := hsum (.popped data)
          change _ + 0 = _ + 3 at hpopped
          dsimp only [List.length_cons]
          lia
  | popped data =>
      rw [hphase] at hsum
      dsimp only
      split
      · have hsent := hsum (.sent data (-1))
        change _ + 3 = _ + 1 at hsent
        dsimp only
        lia
      · have hsending := hsum (.sending data
          (padFrame data.data.bytes (UInt32.ofNat data.length)).1)
        change _ + 3 = _ + 2 at hsending
        dsimp only
        lia
  | sending data pkt =>
      rw [hphase] at hsum
      have hsent := hsum (.sent data 0)
      change _ + 2 = _ + 1 at hsent
      have haccepts : ¬ (0 : Int) < 0 := by decide
      simp only [haccepts, if_false]
      lia
  | sent data bytes =>
      rw [hphase] at hsum
      have hidle := hsum .idle
      change _ + 1 = _ + 0 at hidle
      dsimp only
      lia

theorem framesOf_length_eq (host : Host) (sums : ChecksumFunctions) (t : Templates)
    (s : Sender.State) : (framesOf host sums t s).length = endpointCount t := by
  rw [framesOf, asyncSendMRP_eq, List.length_map, endpointCount]

theorem callDistance_le (h : s.unsent = none) :
    callDistance t s ≤ 5 * endpointCount t + 2 := by
  rw [callDistance, h]
  dsimp only
  split
  · exact Nat.le_refl _
  · exact Nat.zero_le _

theorem sender_distance {sender : Sender.State}
    (hless : Sender.distance sender < Sender.distance s.sender) :
    distance t { s with sender := sender, unsent := none } < distance t s := by
  have hcost : callDistance t { s with sender := sender, unsent := none } ≤
      5 * endpointCount t + 2 := callDistance_le rfl
  have hproduct : (5 * endpointCount t + 3) * (Sender.distance sender + 1) ≤
      (5 * endpointCount t + 3) * Sender.distance s.sender :=
    Nat.mul_le_mul_left _ hless
  rw [Nat.mul_add, Nat.mul_one] at hproduct
  unfold distance
  dsimp only
  lia

theorem sendFrames_distance (hpc : s.sender.pc = .send)
    (hroom : s.net.asyncSendData.length < 1000)
    (hless : Sender.distance (Sender.sendMRP host sums t s.sender) <
      Sender.distance s.sender) :
    distance t (sendFrames host sums t s) < distance t s := by
  unfold sendFrames
  cases hunsent : s.unsent with
  | none =>
      have hlength := framesOf_length_eq host sums t s.sender
      simp only [distance, callDistance, hunsent, hpc, if_true, hlength]
      lia
  | some frames =>
      cases frames with
      | nil => exact sender_distance hless
      | cons frame rest =>
          simp only [hroom, if_true, distance, callDistance, hunsent, netDistance,
            asyncSendFrame, List.length_append, List.length_cons, List.length_nil]
          lia

theorem thread_distance (hmax : t.maxTriggersPerL1MRP ≠ 0) (h : Alone t s)
    (hleft : ¬ Sender.Drained s.sender)
    (hroom : s.net.asyncSendData.length < 1000) :
    distance t (step host sums t ring s (.sender .thread)) < distance t s := by
  have hless := Sender.thread_distance (Sender.thread_move host sums t s.sender)
    hmax h.sender h.notStarved hleft
  by_cases hpc : s.sender.pc = .send
  · have hstep : step host sums t ring s (.sender .thread) =
        sendFrames host sums t s := by
      rw [step, if_pos ⟨rfl, hpc⟩]
    have hsend : Sender.thread host sums t s.sender =
        Sender.sendMRP host sums t s.sender := by
      rw [Sender.thread, hpc]
    rw [hsend] at hless
    rw [hstep]
    exact sendFrames_distance hpc hroom hless
  · have hunsent : s.unsent = none := by
      by_contra hsome
      exact hpc (h.calling hsome)
    have hstep : step host sums t ring s (.sender .thread) =
        { s with
          sender := Sender.thread host sums t s.sender
          unsent := none } := by
      rw [step, if_neg (fun hsend => hpc hsend.right), ← hunsent]
      rfl
    rw [hstep]
    exact sender_distance hless

theorem own_sender (host : Host) (sums : ChecksumFunctions) (t : Templates)
    (ring : Fin n -> Bool) (s : State n) {a : Action n} (ha : Own a) :
    (step host sums t ring s a).sender = s.sender ∨
      (step host sums t ring s a).sender = Sender.thread host sums t s.sender := by
  rcases step_sender host sums t ring s a with hsame | ⟨b, rfl, hstep⟩
  · exact Or.inl hsame
  · refine Or.inr ?_
    change b = .thread at ha
    rw [hstep, ha, Sender.step]

theorem step_alone (h : Alone t s) {a : Action n} (ha : Own a) :
    Alone t (step host sums t ring s a) := by
  have hmove := Sender.thread_move host sums t s.sender
  have hcalling : Calling (step host sums t ring s a) := step_calling h.calling a
  rcases own_sender host sums t ring s ha with hsame | hstep
  · refine ⟨?_, ?_, hcalling⟩
    · rw [hsame]
      exact h.sender
    · rw [hsame]
      exact h.notStarved
  · refine ⟨?_, ?_, hcalling⟩
    · rw [hstep]
      exact Sender.thread_alone hmove h.sender
    · rw [hstep]
      exact Sender.thread_not_starved hmove h.sender h.notStarved

theorem exists_step (hmax : t.maxTriggersPerL1MRP ≠ 0) (hn : 0 < n)
    (h : Alone t s) (hleft : ¬ Complete s) :
    exists a, Own a ∧ Alone t (step host sums t ring s a) ∧
      distance t (step host sums t ring s a) < distance t s := by
  have hhandler : forall i, s.net.asyncSendData ≠ [] ∨ s.net.handlers i ≠ .idle ->
      exists a, Own a ∧ Alone t (step host sums t ring s a) ∧
        distance t (step host sums t ring s a) < distance t s :=
    fun i hi => ⟨.handler i 0, Int.le_refl 0, step_alone h (Int.le_refl 0),
      Nat.add_lt_add_left (handler_distance hi) _⟩
  by_cases hbusy : exists i, s.net.handlers i ≠ .idle
  · rcases hbusy with ⟨i, hi⟩
    exact hhandler i (Or.inr hi)
  · by_cases hqueue : s.net.asyncSendData = []
    · refine ⟨.sender .thread, rfl, step_alone h rfl, thread_distance hmax h ?_ ?_⟩
      · intro hdrained
        refine hleft ⟨hdrained, ?_, hqueue, not_exists_not.mp hbusy⟩
        by_contra hunsent
        have hpc := h.calling hunsent
        rw [hdrained.pc] at hpc
        cases hpc
      · rw [hqueue]
        decide
    · exact hhandler ⟨0, hn⟩ (Or.inl hqueue)

theorem step_starved (halone : Sender.Alone t s.sender)
    (h : Sender.Starved s.sender) {a : Action n} (ha : Own a) :
    Sender.Alone t (step host sums t ring s a).sender ∧
      Sender.Starved (step host sums t ring s a).sender ∧
      (step host sums t ring s a).sender.mrps = s.sender.mrps := by
  have hmove := Sender.thread_move host sums t s.sender
  rcases own_sender host sums t ring s ha with hsame | hstep
  · rw [hsame]
    exact ⟨halone, h, rfl⟩
  · rw [hstep]
    rcases Sender.thread_starved hmove halone h with ⟨hstill, hmrps, _⟩
    exact ⟨Sender.thread_alone hmove halone, hstill, hmrps⟩

theorem step_net_balanced (h : Conveyor.Balanced (view s.net)) (a : Action n) :
    Conveyor.Balanced (view (step host sums t ring s a).net) := by
  cases a with
  | handler i rc =>
      exact Conveyor.steps_balanced (handler_view (handler_move ring s.net i rc)) h
  | sender a =>
      unfold step
      dsimp only
      split
      · unfold sendFrames
        split
        · exact h
        · exact h
        · split
          · exact Conveyor.steps_balanced (asyncSendFrame_view _ _) h
          · exact h
      · exact h

end Steps

/-!
## Runs
-/

structure Completes {n : Nat} (host : Host) (sums : ChecksumFunctions)
    (t : Templates) (ring : Fin n -> Bool) (s : State n) : Prop where
  completes : ¬ Sender.Starved s.sender -> exists more,
    more.length ≤ distance t s ∧ (forall a, a ∈ more -> Own a) ∧
      let s' := run (step host sums t ring) s more
      Complete s' ∧
        (s'.sender.pushed : Multiset Sender.Trigger) =
          s'.sender.deleted + s'.sender.sent ∧
        (s'.net.enqueued : Multiset DataContainer) =
          s'.net.handed.map Handed.data + s'.net.rejected
  starved : Sender.Starved s.sender ->
    forall more : List (Action n), (forall a, a ∈ more -> Own a) ->
      let s' := run (step host sums t ring) s more
      ¬ Complete s' ∧ s'.sender.mrps = s.sender.mrps

section Runs

variable {n : Nat} {host : Host} {sums : ChecksumFunctions} {t : Templates}
  {ring : Fin n -> Bool} {s : State n}

theorem Complete.settles (h : Complete s)
    (hsender : Conveyor.Balanced (Sender.view s.sender))
    (hnet : Conveyor.Balanced (view s.net)) :
    (s.sender.pushed : Multiset Sender.Trigger) = s.sender.deleted + s.sender.sent ∧
      (s.net.enqueued : Multiset DataContainer) =
        s.net.handed.map Handed.data + s.net.rejected := by
  refine ⟨h.drained.settled hsender, ?_⟩
  have hconserved := (balanced_iff s.net).mp hnet
  have hheld : ∑ i, (s.net.handlers i).holding = 0 :=
    Finset.sum_eq_zero fun i _ => by rw [h.settled.handlers i]; rfl
  rwa [h.settled.queue, hheld, Multiset.coe_nil, add_zero, zero_add] at hconserved

theorem run_starved (halone : Sender.Alone t s.sender)
    (h : Sender.Starved s.sender) {more : List (Action n)}
    (hown : forall a, a ∈ more -> Own a) :
    Sender.Starved (run (step host sums t ring) s more).sender ∧
      (run (step host sums t ring) s more).sender.mrps = s.sender.mrps := by
  have hmeet : StepsMeet (fun _ a => Own a) (step host sums t ring) s more :=
    stepsMeet_of_mem (fun a ha _ => hown a ha) s
  have hrun := run_invariant_of_stepsMeet
    (I := fun s' => Sender.Alone t s'.sender ∧ Sender.Starved s'.sender ∧
      s'.sender.mrps = s.sender.mrps)
    (fun s' a hs' ha => by
      rcases step_starved hs'.left hs'.right.left ha with ⟨hnext, hstill, hmrps⟩
      exact ⟨hnext, hstill, hmrps.trans hs'.right.right⟩)
    ⟨halone, h, rfl⟩ hmeet
  exact hrun.right

theorem exists_complete (host : Host) (sums : ChecksumFunctions)
    (ring : Fin n -> Bool) (hmax : t.maxTriggersPerL1MRP ≠ 0) (hn : 0 < n)
    (h : Alone t s) :
    exists more, more.length ≤ distance t s ∧ (forall a, a ∈ more -> Own a) ∧
      Complete (run (step host sums t ring) s more) :=
  exists_run (step host sums t ring) (distance t)
    (fun _ hs hleft => exists_step hmax hn hs hleft) h

end Runs

section Reachable

variable {n : Nat} (host : Host) (sums : ChecksumFunctions) (t : Templates)
  (ring : Fin n -> Bool) (as : List (Action n))

theorem run_both_balanced :
    Conveyor.Balanced
        (Sender.view (run (step host sums t ring) (State.initial n) as).sender) ∧
      Conveyor.Balanced
        (view (run (step host sums t ring) (State.initial n) as).net) := by
  rcases run_projects host sums t ring as (State.initial n) with ⟨bs, _, hsender⟩
  refine ⟨?_, run_invariant
    (I := fun s : State n => Conveyor.Balanced (view s.net))
    (fun s a h => step_net_balanced h a) initial_balanced as⟩
  rw [hsender]
  exact Sender.run_balanced host sums t bs

theorem run_sender_inv :
    Sender.Inv t (run (step host sums t ring) (State.initial n) as).sender := by
  rcases run_projects host sums t ring as (State.initial n) with ⟨bs, _, hsender⟩
  rw [hsender]
  exact Sender.run_inv host sums t bs

theorem run_sender_alone
    (hflag : (run (step host sums t ring) (State.initial n) as).sender.flushBurst =
      false) :
    Sender.Alone t (run (step host sums t ring) (State.initial n) as).sender :=
  ⟨(run_sender_inv host sums t ring as).bounded, hflag⟩

theorem run_calling :
    Calling (run (step host sums t ring) (State.initial n) as) :=
  run_invariant (I := Calling) (fun _ a h => step_calling h a)
    (fun hunsent => absurd rfl hunsent) as

theorem run_batchFits (hlimit : 54 + 12 * t.maxTriggersPerL1MRP.toNat ≤ 1500) :
    StepsMeet (BatchFits t) (step host sums t ring) (State.initial n) as := by
  refine stepsMeet_of_invariant (I := fun s => Sender.Inv t s.sender) ?_ ?_
    (Sender.run_inv host sums t []) as
  · intro s a h
    rcases step_sender host sums t ring s a with hsame | ⟨b, _, hstep⟩
    · rw [hsame]
      exact h
    · rw [hstep]
      exact Sender.step_inv host sums t s.sender b h
  · intro s a h _ _ _
    have hbatch := h.bounded.left
    left
    lia

end Reachable

/--
From every state with the flush flag down, the thread and the handlers can bring
all that was pushed to the driver without another request, in at most as many
steps as the distance says, unless the thread is starved.  Then they cannot.
-/
theorem transmission_completes (host : Host) (sums : ChecksumFunctions)
    {t : Templates} (hmax : t.maxTriggersPerL1MRP ≠ 0) {n : Nat} (hn : 0 < n)
    (ring : Fin n -> Bool) (as : List (Action n))
    (hflag : (run (step host sums t ring) (State.initial n) as).sender.flushBurst =
      false) :
    Completes host sums t ring
      (run (step host sums t ring) (State.initial n) as) := by
  have halone := run_sender_alone host sums t ring as hflag
  constructor
  · intro hfree
    rcases exists_complete host sums ring hmax hn
      ⟨halone, hfree, run_calling host sums t ring as⟩ with
      ⟨more, hlength, hown, hcomplete⟩
    refine ⟨more, hlength, hown, hcomplete, ?_⟩
    rw [← run_append] at hcomplete ⊢
    rcases run_both_balanced host sums t ring (as ++ more) with ⟨hsender, hnet⟩
    exact hcomplete.settles hsender hnet
  · intro hstarved more hown
    have hrun : Sender.Starved (run (step host sums t ring) _ more).sender ∧ _ :=
      run_starved halone hstarved hown
    exact ⟨fun hcomplete => hcomplete.drained.not_starved hrun.left, hrun.right⟩

def transmitSome : List (Action 1) :=
  (Sender.requestAndPush (requestedEvent 1, false) ++
    List.replicate 5 Sender.Action.thread ++
    Sender.requestAndPush (requestedEvent 2, false)).map .sender

theorem transmission_completes_some :
    ¬ Sender.Starved (run (step loopbackHost ChecksumFunctions.reference
        loopbackTemplates (fun _ : Fin 1 => true)) (State.initial 1)
          transmitSome).sender ∧
      Completes loopbackHost ChecksumFunctions.reference loopbackTemplates
        (fun _ : Fin 1 => true)
        (run (step loopbackHost ChecksumFunctions.reference loopbackTemplates
          (fun _ => true)) (State.initial 1) transmitSome) :=
  ⟨by decide, transmission_completes loopbackHost ChecksumFunctions.reference
    (by decide) Nat.zero_lt_one (fun _ => true) transmitSome (by decide)⟩

end Transmission
end L1
end FarmNetworking
