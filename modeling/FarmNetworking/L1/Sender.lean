import FarmNetworking.Foundation.Conveyor
import FarmNetworking.L1.BatchFrames

/-!
# The sender thread and its producers

`L1DistributionHandler::thread` collects triggers from a shared queue into a
batch and hands each batch to `Async_SendMRP`.  Producers call
`Async_RequestL1DataMulticast` from any number of threads, and the burst handler
changes its flush flag at any time.

The thread is cut at its accesses to shared data.  A label says who moves next,
so that a list of labels is an interleaving.
-/

namespace FarmNetworking
namespace L1
namespace Sender

open Foundation Runs
open Structs

/-- A pushed pointer.  Serial numbers tell the pushes apart. -/
structure Trigger where
  serial : Nat
  hdr : TriggerRawHDR
  deriving DecidableEq

inductive Pc where
  /-- At the condition of the loop that fills the batch. -/
  | fill
  /-- At the call of `flushBurst`. -/
  | flushTest
  /-- At `try_pop` in the condition of the flush loop. -/
  | flushPop
  /-- In the body of the flush loop, with a popped trigger. -/
  | delete (hdr : Trigger)
  /-- At `try_pop` in the waiting loop. -/
  | blockingPop
  /-- Behind the waiting loop, with a popped trigger. -/
  | append (hdr : Trigger)
  /-- Behind the filling loop. -/
  | test
  /-- At the call of `Async_SendMRP`. -/
  | send
  deriving DecidableEq

/-- What one call of `Async_SendMRP` put on its way. -/
structure MRP where
  triggers : List Trigger
  frames : List (List UInt8)

/--
The last five fields are history that the code does not store.  `flushMark` is
the number of pushes that were complete when the thread last saw the flag up.
-/
structure State where
  flushBurst : Bool
  producers : Nat -> Option TriggerRawHDR
  multicastMRPQueue : List Trigger
  pc : Pc
  multicastRequests : List Trigger
  l1TriggersSent : UInt64
  l1MRPsSent : UInt64
  pushed : List Trigger
  deleted : List Trigger
  mrps : List MRP
  flushMark : Nat

def State.initial : State where
  flushBurst := false
  producers := fun _ => none
  multicastMRPQueue := []
  pc := .fill
  multicastRequests := []
  l1TriggersSent := 0
  l1MRPsSent := 0
  pushed := []
  deleted := []
  mrps := []
  flushMark := 0

inductive Action where
  | setFlushBurst (b : Bool)
  /-- A producer enters `Async_RequestL1DataMulticast` and tests the flag. -/
  | request (producer : Nat) (event : Event) (zSuppressed : Bool)
  /-- A producer that has built its header pushes it. -/
  | push (producer : Nat)
  | thread
  deriving DecidableEq

/-!
## The steps
-/

/-- The part of `Async_RequestL1DataMulticast` before the push. -/
def request (s : State) (producer : Nat) (event : Event) (zSuppressed : Bool) :
    State :=
  match s.producers producer with
  | some _ => s
  | none =>
      if s.flushBurst then s
      else
        { s with
          producers := Function.update s.producers producer
            (some (generateTriggerHDR event zSuppressed)) }

def push (s : State) (producer : Nat) : State :=
  match s.producers producer with
  | none => s
  | some hdr =>
      { s with
        producers := Function.update s.producers producer none
        multicastMRPQueue :=
          s.multicastMRPQueue ++ [{ serial := s.pushed.length, hdr := hdr }]
        pushed := s.pushed ++ [{ serial := s.pushed.length, hdr := hdr }] }

section Thread

variable (host : Host) (sums : ChecksumFunctions) (t : Templates)

/-- The call of `Async_SendMRP`, which takes the batch from its vector. -/
def sendMRP (s : State) : State :=
  let sent := asyncSendMRP host sums t Trigger.hdr s.multicastRequests
  { s with
    pc := .fill
    multicastRequests := sent.triggers
    l1TriggersSent := s.l1TriggersSent + sent.numberOfTriggers.toUInt64
    l1MRPsSent := s.l1MRPsSent + 1
    mrps := s.mrps ++ [{ triggers := sent.placed, frames := sent.frames }] }

def thread (s : State) : State :=
  match s.pc with
  | .fill =>
      if s.multicastRequests.length ≠ t.maxTriggersPerL1MRP.toNat ∧
          s.multicastMRPQueue ≠ [] then
        { s with pc := .flushTest }
      else { s with pc := .test }
  | .flushTest =>
      if s.flushBurst then
        { s with pc := .flushPop, flushMark := s.pushed.length }
      else { s with pc := .blockingPop }
  | .flushPop =>
      match s.multicastMRPQueue with
      | [] => { s with pc := .blockingPop }
      | hdr :: rest => { s with pc := .delete hdr, multicastMRPQueue := rest }
  | .delete hdr => { s with pc := .flushTest, deleted := s.deleted ++ [hdr] }
  | .blockingPop =>
      match s.multicastMRPQueue with
      | [] => s
      | hdr :: rest => { s with pc := .append hdr, multicastMRPQueue := rest }
  | .append hdr =>
      { s with pc := .fill, multicastRequests := s.multicastRequests ++ [hdr] }
  | .test =>
      if s.multicastRequests.length > 0 then { s with pc := .send }
      else { s with pc := .fill }
  | .send => sendMRP host sums t s

def step (s : State) : Action -> State
  | .setFlushBurst b => { s with flushBurst := b }
  | .request producer event zSuppressed => request s producer event zSuppressed
  | .push producer => push s producer
  | .thread => thread host sums t s

/-!
## What a step can do

Every step is one of the following moves.  Invariants are proved move by move.
-/

inductive EnvironmentMove (s : State) : State -> Prop where
  | idle : EnvironmentMove s s
  | setFlushBurst (b : Bool) : EnvironmentMove s { s with flushBurst := b }
  | request (producer : Nat) (hdr : TriggerRawHDR) :
      s.producers producer = none -> s.flushBurst = false ->
      EnvironmentMove s { s with
        producers := Function.update s.producers producer (some hdr) }
  | push (producer : Nat) (hdr : TriggerRawHDR) :
      s.producers producer = some hdr ->
      EnvironmentMove s { s with
        producers := Function.update s.producers producer none
        multicastMRPQueue :=
          s.multicastMRPQueue ++ [{ serial := s.pushed.length, hdr := hdr }]
        pushed := s.pushed ++ [{ serial := s.pushed.length, hdr := hdr }] }

inductive ThreadMove (s : State) : State -> Prop where
  | more : s.pc = .fill ->
      s.multicastRequests.length ≠ t.maxTriggersPerL1MRP.toNat ->
      s.multicastMRPQueue ≠ [] -> ThreadMove s { s with pc := .flushTest }
  | enough : s.pc = .fill ->
      s.multicastRequests.length = t.maxTriggersPerL1MRP.toNat ∨
        s.multicastMRPQueue = [] ->
      ThreadMove s { s with pc := .test }
  | flush : s.pc = .flushTest -> s.flushBurst = true ->
      ThreadMove s { s with pc := .flushPop, flushMark := s.pushed.length }
  | noFlush : s.pc = .flushTest -> s.flushBurst = false ->
      ThreadMove s { s with pc := .blockingPop }
  | flushPop (hdr : Trigger) (rest : List Trigger) : s.pc = .flushPop ->
      s.multicastMRPQueue = hdr :: rest ->
      ThreadMove s { s with pc := .delete hdr, multicastMRPQueue := rest }
  | drained : s.pc = .flushPop -> s.multicastMRPQueue = [] ->
      ThreadMove s { s with pc := .blockingPop }
  | delete (hdr : Trigger) : s.pc = .delete hdr ->
      ThreadMove s { s with pc := .flushTest, deleted := s.deleted ++ [hdr] }
  | wait : s.pc = .blockingPop -> s.multicastMRPQueue = [] -> ThreadMove s s
  | pop (hdr : Trigger) (rest : List Trigger) : s.pc = .blockingPop ->
      s.multicastMRPQueue = hdr :: rest ->
      ThreadMove s { s with pc := .append hdr, multicastMRPQueue := rest }
  | append (hdr : Trigger) : s.pc = .append hdr ->
      ThreadMove s { s with
        pc := .fill
        multicastRequests := s.multicastRequests ++ [hdr] }
  | ready : s.pc = .test -> 0 < s.multicastRequests.length ->
      ThreadMove s { s with pc := .send }
  | sleep : s.pc = .test -> s.multicastRequests = [] ->
      ThreadMove s { s with pc := .fill }
  | send : s.pc = .send -> ThreadMove s (sendMRP host sums t s)

theorem thread_move (s : State) :
    ThreadMove host sums t s (thread host sums t s) := by
  unfold thread
  cases hpc : s.pc with
  | fill =>
      dsimp only
      split
      · next h => exact ThreadMove.more hpc h.left h.right
      · next h =>
          rw [not_and_or, not_not, not_not] at h
          exact ThreadMove.enough hpc h
  | flushTest =>
      dsimp only
      split
      · next h => exact ThreadMove.flush hpc h
      · next h => exact ThreadMove.noFlush hpc (Bool.eq_false_iff.mpr h)
  | flushPop =>
      dsimp only
      split
      · next h => exact ThreadMove.drained hpc h
      · next hdr rest h => exact ThreadMove.flushPop hdr rest hpc h
  | delete hdr => exact ThreadMove.delete hdr hpc
  | blockingPop =>
      dsimp only
      split
      · next h => exact ThreadMove.wait hpc h
      · next hdr rest h => exact ThreadMove.pop hdr rest hpc h
  | append hdr => exact ThreadMove.append hdr hpc
  | test =>
      dsimp only
      split
      · next h => exact ThreadMove.ready hpc h
      · next h =>
          exact ThreadMove.sleep hpc (List.eq_nil_of_length_eq_zero (by lia))
  | send => exact ThreadMove.send hpc

theorem environment_move (s : State) {a : Action} (ha : a ≠ .thread) :
    EnvironmentMove s (step host sums t s a) := by
  cases a with
  | setFlushBurst b => exact EnvironmentMove.setFlushBurst b
  | request producer event zSuppressed =>
      unfold step request
      dsimp only
      split
      · exact EnvironmentMove.idle
      · next hfree =>
          split
          · exact EnvironmentMove.idle
          · next hflag =>
              exact EnvironmentMove.request producer _ hfree
                (Bool.eq_false_iff.mpr hflag)
  | push producer =>
      unfold step push
      dsimp only
      split
      · exact EnvironmentMove.idle
      · next hdr hready => exact EnvironmentMove.push producer hdr hready
  | thread => exact absurd rfl ha

theorem step_of_moves {P : State -> State -> Prop} (s : State) (a : Action)
    (henvironment : forall s', EnvironmentMove s s' -> P s s')
    (hthread : forall s', ThreadMove host sums t s s' -> P s s') :
    P s (step host sums t s a) := by
  by_cases ha : a = .thread
  · subst ha
    exact hthread _ (thread_move host sums t s)
  · exact henvironment _ (environment_move host sums t s ha)

end Thread

/-!
## The batch

The loops compare sizes with `!=`.  This is safe because the batch grows by one
trigger at a time and only behind the comparison.
-/

def Pc.filling : Pc -> Bool
  | .flushTest | .flushPop | .delete _ | .blockingPop | .append _ => true
  | .fill | .test | .send => false

def BatchBounded (max : Nat) (s : State) : Prop :=
  s.multicastRequests.length ≤ max ∧
    (s.pc.filling = true -> s.multicastRequests.length < max)

section Batch

variable {host : Host} {sums : ChecksumFunctions} {t : Templates} {s s' : State}

theorem sendMRP_eq
    (h : s.multicastRequests.length ≤ t.maxTriggersPerL1MRP.toNat) :
    sendMRP host sums t s =
      { s with
        pc := .fill
        multicastRequests := []
        l1TriggersSent := s.l1TriggersSent +
          (UInt32.ofNat s.multicastRequests.length).toUInt64
        l1MRPsSent := s.l1MRPsSent + 1
        mrps := s.mrps ++
          [{ triggers := s.multicastRequests.reverse
             frames := (asyncSendMRP host sums t Trigger.hdr
               s.multicastRequests).frames }] } := by
  have hrest : s.multicastRequests.length - t.maxTriggersPerL1MRP.toNat = 0 :=
    Nat.sub_eq_zero_of_le h
  have hsize : batchSize t s.multicastRequests = s.multicastRequests.length :=
    Nat.min_eq_left h
  have hbatch : batch t s.multicastRequests = s.multicastRequests.reverse := by
    rw [batch]
    exact List.take_of_length_le (by rw [List.length_reverse]; exact h)
  simp only [sendMRP]
  rw [asyncSendMRP_eq, hrest, List.take_zero, hsize, hbatch]

theorem environment_batchBounded {max : Nat} (hmove : EnvironmentMove s s')
    (h : BatchBounded max s) : BatchBounded max s' := by
  cases hmove with
  | idle => exact h
  | setFlushBurst b => exact h
  | request producer hdr hfree hflag => exact h
  | push producer hdr hready => exact h

theorem thread_batchBounded (hmove : ThreadMove host sums t s s')
    (h : BatchBounded t.maxTriggersPerL1MRP.toNat s) :
    BatchBounded t.maxTriggersPerL1MRP.toNat s' := by
  rcases h with ⟨hle, hfilling⟩
  cases hmove with
  | more hpc hne hqueue => exact ⟨hle, fun _ => Nat.lt_of_le_of_ne hle hne⟩
  | enough hpc hstop => exact ⟨hle, nofun⟩
  | flush hpc hflag => exact ⟨hle, fun _ => hfilling (by rw [hpc]; rfl)⟩
  | noFlush hpc hflag => exact ⟨hle, fun _ => hfilling (by rw [hpc]; rfl)⟩
  | flushPop hdr rest hpc hqueue =>
      exact ⟨hle, fun _ => hfilling (by rw [hpc]; rfl)⟩
  | drained hpc hqueue => exact ⟨hle, fun _ => hfilling (by rw [hpc]; rfl)⟩
  | delete hdr hpc => exact ⟨hle, fun _ => hfilling (by rw [hpc]; rfl)⟩
  | wait hpc hqueue => exact ⟨hle, hfilling⟩
  | pop hdr rest hpc hqueue =>
      exact ⟨hle, fun _ => hfilling (by rw [hpc]; rfl)⟩
  | append hdr hpc =>
      have hlt := hfilling (by rw [hpc]; rfl)
      refine ⟨?_, nofun⟩
      change (s.multicastRequests ++ [hdr]).length ≤ _
      rw [List.length_append]
      exact hlt
  | ready hpc hpos => exact ⟨hle, nofun⟩
  | sleep hpc hnone => exact ⟨hle, nofun⟩
  | send hpc =>
      rw [sendMRP_eq hle]
      exact ⟨Nat.zero_le _, nofun⟩

end Batch

/-!
## How a batch is assembled

While the flush flag is down, every list of requests up to the configured maximum
becomes the batch of one MRP.
-/

/-- One call of `Async_RequestL1DataMulticast` without interruption. -/
def requestAndPush (r : Event × Bool) : List Action :=
  [.request 0 r.1 r.2, .push 0]

section Assembly

variable {host : Host} {sums : ChecksumFunctions} {t : Templates}

theorem run_requestAndPush {s : State} (hfree : s.producers 0 = none)
    (hflag : s.flushBurst = false) (r : Event × Bool) :
    run (step host sums t) s (requestAndPush r) =
      { s with
        multicastMRPQueue := s.multicastMRPQueue ++
          [{ serial := s.pushed.length, hdr := generateTriggerHDR r.1 r.2 }]
        pushed := s.pushed ++
          [{ serial := s.pushed.length, hdr := generateTriggerHDR r.1 r.2 }] } := by
  have hrestored : Function.update s.producers 0 none = s.producers := by
    rw [← hfree, Function.update_eq_self]
  simp [requestAndPush, step, request, push, hfree, hflag, hrestored]

theorem run_requests (requests : List (Event × Bool)) {s : State}
    (hfree : s.producers 0 = none) (hflag : s.flushBurst = false) :
    exists queue : List Trigger,
      queue.map Trigger.hdr =
          requests.map (fun r => generateTriggerHDR r.1 r.2) ∧
        run (step host sums t) s (requests.flatMap requestAndPush) =
          { s with
            multicastMRPQueue := s.multicastMRPQueue ++ queue
            pushed := s.pushed ++ queue } := by
  induction requests generalizing s with
  | nil => exact ⟨[], rfl, by simp⟩
  | cons r rest ih =>
      rw [List.flatMap_cons, run_append, run_requestAndPush hfree hflag r]
      rcases ih (s := { s with
        multicastMRPQueue := s.multicastMRPQueue ++
          [{ serial := s.pushed.length, hdr := generateTriggerHDR r.1 r.2 }]
        pushed := s.pushed ++
          [{ serial := s.pushed.length, hdr := generateTriggerHDR r.1 r.2 }] })
        hfree hflag with ⟨queue, hqueue, hrun⟩
      refine ⟨{ serial := s.pushed.length, hdr := generateTriggerHDR r.1 r.2 } ::
        queue, ?_, ?_⟩
      · rw [List.map_cons, hqueue, List.map_cons]
      · rw [hrun]
        simp

theorem run_collect (queue : List Trigger) {s : State} (hpc : s.pc = .fill)
    (hflag : s.flushBurst = false) (hqueue : s.multicastMRPQueue = queue)
    (hroom : s.multicastRequests.length + queue.length ≤
      t.maxTriggersPerL1MRP.toNat) :
    run (step host sums t) s (List.replicate (4 * queue.length) .thread) =
      { s with
        multicastMRPQueue := []
        multicastRequests := s.multicastRequests ++ queue } := by
  induction queue generalizing s with
  | nil =>
      rw [List.append_nil, List.length_nil]
      change s = _
      rw [← hqueue]
  | cons hdr rest ih =>
      have hne : s.multicastRequests.length ≠ t.maxTriggersPerL1MRP.toNat := by
        rw [List.length_cons] at hroom
        lia
      have hround : run (step host sums t) s (List.replicate 4 .thread) =
          { s with
            multicastMRPQueue := rest
            multicastRequests := s.multicastRequests ++ [hdr] } := by
        simp [List.replicate, step, thread, hpc, hflag, hqueue, hne]
      rw [List.length_cons, Nat.mul_succ, Nat.add_comm, List.replicate_add,
        run_append, hround]
      rw [ih (s := { s with
        multicastMRPQueue := rest
        multicastRequests := s.multicastRequests ++ [hdr] }) hpc hflag rfl
        (by
          rw [List.length_cons] at hroom
          rw [List.length_append, List.length_singleton]
          lia)]
      simp

end Assembly

theorem run_assembles (host : Host) (sums : ChecksumFunctions) (t : Templates)
    (requests : List (Event × Bool)) (hne : requests ≠ [])
    (hmax : requests.length ≤ t.maxTriggersPerL1MRP.toNat) :
    exists as : List Action,
      (run (step host sums t) State.initial as).pc = .send ∧
        (run (step host sums t) State.initial as).multicastRequests.map
            Trigger.hdr =
          requests.map (fun r => generateTriggerHDR r.1 r.2) ∧
        (run (step host sums t) State.initial as).mrps = [] := by
  rcases run_requests requests (show State.initial.producers 0 = none from rfl)
    rfl with ⟨queue, hqueue, hpush⟩
  have hlength : queue.length = requests.length := by
    have h := congrArg List.length hqueue
    rwa [List.length_map, List.length_map] at h
  have hpos : 0 < queue.length := by
    rw [hlength]
    exact List.length_pos_iff.mpr hne
  refine ⟨requests.flatMap requestAndPush ++
    (List.replicate (4 * queue.length) .thread ++ [.thread, .thread]), ?_⟩
  rw [run_append, hpush, run_append, run_collect queue rfl rfl rfl (by
    change 0 + queue.length ≤ _
    lia)]
  simp [step, thread, State.initial, hpos, hqueue]

end Sender
end L1
end FarmNetworking
