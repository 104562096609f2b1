import FarmNetworking.L1.Conservation
import FarmNetworking.L1.Endpoints
import FarmNetworking.Socket.PFringHandler

/-!
# From the batch to the wire

The sender thread and the packet handlers run side by side and share the queue
of frames.  A call of `Async_SendMRP` is no longer one step here: it enqueues one
frame after the other and waits while the queue is full.

The sender counts a trigger when its frames are enqueued.  Whether the frames
reach the driver is decided later, by code that does not know the batch.
-/

namespace FarmNetworking
namespace L1
namespace Transmission

open Foundation Runs
open Structs Socket PFringHandler

/--
`unsent` are the frames that a call in progress has still to enqueue.  Buffers
are numbered as they are allocated.
-/
structure State (n : Nat) where
  sender : Sender.State
  net : PFringHandler.State n
  unsent : Option (List (List UInt8))
  nextAddress : Nat

def State.initial (n : Nat) : State n where
  sender := Sender.State.initial
  net := PFringHandler.State.initial n
  unsent := none
  nextAddress := 0

inductive Action (n : Nat) where
  | sender (a : Sender.Action)
  | handler (i : Fin n) (rc : Int)
  deriving DecidableEq

/-- The argument `{ frame, offset, true }` of `AsyncSendFrame`. -/
def container (address : Nat) (frame : List UInt8) : DataContainer where
  data := { address := address, bytes := frame }
  length := frame.length
  ownerMayFreeData := true

section System

variable {n : Nat} (host : Host) (sums : ChecksumFunctions) (t : Templates)
  (ring : Fin n -> Bool)

def framesOf (s : Sender.State) : List (List UInt8) :=
  (asyncSendMRP host sums t Sender.Trigger.hdr s.multicastRequests).frames

/-- One step of the sender inside `Async_SendMRP`. -/
def sendFrames (s : State n) : State n :=
  match s.unsent with
  | none => { s with unsent := some (framesOf host sums t s.sender) }
  | some [] =>
      { s with sender := Sender.sendMRP host sums t s.sender, unsent := none }
  | some (frame :: rest) =>
      if s.net.asyncSendData.length < 1000 then
        { s with
          net := asyncSendFrame s.net (container s.nextAddress frame)
          unsent := some rest
          nextAddress := s.nextAddress + 1 }
      else s

def step (s : State n) : Action n -> State n
  | .sender a =>
      if a = .thread ∧ s.sender.pc = .send then sendFrames host sums t s
      else { s with sender := Sender.step host sums t s.sender a }
  | .handler i rc => { s with net := doSendQueuedFrames ring s.net i rc }

def BatchFits (s : State n) (a : Action n) : Prop :=
  a = .sender .thread -> s.sender.pc = .send -> s.unsent = none ->
    54 + 12 * s.sender.multicastRequests.length ≤ 1500 ∨
      t.l1UnicastRequestHdrs ++ t.l1MulticastRequestHdrs = []

instance BatchFits.decidable (s : State n) (a : Action n) :
    Decidable (BatchFits t s a) := by
  unfold BatchFits
  infer_instance

/-!
## What holds in all runs with fitting batches
-/

/-- The frames that the call in progress has enqueued already. -/
def Progress (s : State n) (started : List (List UInt8)) : Prop :=
  match s.unsent with
  | none => started = []
  | some rest =>
      s.sender.pc = .send ∧ started ++ rest = framesOf host sums t s.sender

structure Delivering (s : State n) : Prop where
  sender : Sender.Inv t s.sender
  ready : s.sender.pc = .send -> 0 < s.sender.multicastRequests.length
  balanced : Conveyor.Balanced (view s.net)
  allFit : AllFit s.net
  unsent : forall rest, s.unsent = some rest -> forall frame, frame ∈ rest ->
    60 ≤ frame.length ∧ frame.length ≤ 1500
  addresses : s.net.enqueued.map (fun d => d.data.address) =
    List.range s.nextAddress
  enqueued : exists started, Progress host sums t s started ∧
    s.net.enqueued.map (fun d => d.data.bytes) =
      s.sender.mrps.flatMap Sender.MRP.frames ++ started

theorem initial_delivering : Delivering host sums t (State.initial n) where
  sender := Sender.initial_inv t
  ready := nofun
  balanced := initial_balanced
  allFit := initial_allFit
  unsent := nofun
  addresses := rfl
  enqueued := ⟨[], rfl, rfl⟩

theorem sender_step_quiet (s : Sender.State) {a : Sender.Action}
    (ha : ¬ (a = .thread ∧ s.pc = .send)) :
    (Sender.step host sums t s a).mrps = s.mrps ∧
      (s.pc = .send -> (Sender.step host sums t s a).pc = .send ∧
        (Sender.step host sums t s a).multicastRequests =
          s.multicastRequests) := by
  by_cases hthread : a = .thread
  · subst hthread
    have hpc : s.pc ≠ .send := fun h => ha ⟨rfl, h⟩
    refine ⟨?_, fun h => absurd h hpc⟩
    have hmove := Sender.thread_move host sums t s
    change (Sender.thread host sums t s).mrps = s.mrps
    generalize Sender.thread host sums t s = s' at hmove
    cases hmove with
    | send h => exact absurd h hpc
    | _ => rfl
  · have hmove := Sender.environment_move host sums t s hthread
    generalize Sender.step host sums t s a = s' at hmove
    cases hmove <;> exact ⟨rfl, fun h => ⟨h, rfl⟩⟩

theorem sender_step_ready (s : Sender.State) (a : Sender.Action)
    (h : s.pc = .send -> 0 < s.multicastRequests.length)
    (hsend : (Sender.step host sums t s a).pc = .send) :
    0 < (Sender.step host sums t s a).multicastRequests.length := by
  revert hsend
  refine Sender.step_of_moves
    (P := fun _ s' => s'.pc = .send -> 0 < s'.multicastRequests.length)
    host sums t s a ?_ ?_
  · intro s' hmove
    cases hmove <;> exact h
  · intro s' hmove
    cases hmove with
    | wait hpc hqueue => exact h
    | ready hpc hpos => exact fun _ => hpos
    | _ => exact nofun

theorem framesOf_length {s : Sender.State} (hinv : Sender.Inv t s)
    (hpos : 0 < s.multicastRequests.length)
    (hfits : 54 + 12 * s.multicastRequests.length ≤ 1500 ∨
      t.l1UnicastRequestHdrs ++ t.l1MulticastRequestHdrs = []) :
    forall frame, frame ∈ framesOf host sums t s ->
      60 ≤ frame.length ∧ frame.length ≤ 1500 := by
  intro frame hframe
  have hsize : batchSize t s.multicastRequests = s.multicastRequests.length :=
    Nat.min_eq_left hinv.bounded.left
  rcases hfits with hle | hnone
  · rw [framesOf, asyncSendMRP_frames (by lia)] at hframe
    rcases List.mem_map.mp hframe with ⟨template, _htemplate, rfl⟩
    rw [frameOf_length, batch_length, hsize]
    lia
  · rw [framesOf, asyncSendMRP_eq, hnone] at hframe
    cases hframe

section Steps

variable {host : Host} {sums : ChecksumFunctions} {t : Templates}
  {ring : Fin n -> Bool} {s : State n}

theorem sender_delivering (h : Delivering host sums t s) {a : Sender.Action}
    (ha : ¬ (a = .thread ∧ s.sender.pc = .send)) :
    Delivering host sums t
      { s with sender := Sender.step host sums t s.sender a } := by
  rcases sender_step_quiet host sums t s.sender ha with ⟨hmrps, hsame⟩
  refine ⟨Sender.step_inv host sums t s.sender a h.sender,
    sender_step_ready host sums t s.sender a h.ready, h.balanced, h.allFit,
    h.unsent, h.addresses, ?_⟩
  rcases h.enqueued with ⟨started, hprogress, henqueued⟩
  refine ⟨started, ?_, ?_⟩
  · unfold Progress at hprogress ⊢
    dsimp only
    cases hunsent : s.unsent with
    | none =>
        rw [hunsent] at hprogress
        exact hprogress
    | some rest =>
        rw [hunsent] at hprogress
        rcases hsame hprogress.left with ⟨hpc, hrequests⟩
        refine ⟨hpc, ?_⟩
        rw [framesOf, hrequests]
        exact hprogress.right
  · change _ = (Sender.step host sums t s.sender a).mrps.flatMap _ ++ _
    rw [hmrps]
    exact henqueued

theorem start_delivering (h : Delivering host sums t s)
    (hunsent : s.unsent = none) (hpc : s.sender.pc = .send)
    (hfits : 54 + 12 * s.sender.multicastRequests.length ≤ 1500 ∨
      t.l1UnicastRequestHdrs ++ t.l1MulticastRequestHdrs = []) :
    Delivering host sums t
      { s with unsent := some (framesOf host sums t s.sender) } := by
  refine ⟨h.sender, h.ready, h.balanced, h.allFit, ?_, h.addresses, ?_⟩
  · intro rest hrest
    cases hrest
    exact framesOf_length host sums t h.sender (h.ready hpc) hfits
  · rcases h.enqueued with ⟨started, hprogress, hbytes⟩
    rw [Progress, hunsent] at hprogress
    exact ⟨started, ⟨hpc, by rw [hprogress]; rfl⟩, hbytes⟩

theorem enqueue_delivering (h : Delivering host sums t s)
    {frame : List UInt8} {rest : List (List UInt8)}
    (hunsent : s.unsent = some (frame :: rest))
    (hroom : s.net.asyncSendData.length < 1000) :
    Delivering host sums t
      { s with
        net := asyncSendFrame s.net (container s.nextAddress frame)
        unsent := some rest
        nextAddress := s.nextAddress + 1 } := by
  have henqueued : (asyncSendFrame s.net
      (container s.nextAddress frame)).enqueued =
      s.net.enqueued ++ [container s.nextAddress frame] := by
    rw [asyncSendFrame, if_pos hroom]
  have hframe := h.unsent _ hunsent frame (List.mem_cons_self ..)
  refine ⟨h.sender, h.ready,
    Conveyor.steps_balanced (asyncSendFrame_view _ _) h.balanced,
    asyncSendFrame_allFit ⟨hframe.left, hframe.right, rfl⟩ h.allFit,
    ?_, ?_, ?_⟩
  · intro later hlater f hf
    cases hlater
    exact h.unsent _ hunsent f (List.mem_cons_of_mem _ hf)
  · change (asyncSendFrame s.net (container s.nextAddress frame)).enqueued.map _ =
      List.range (s.nextAddress + 1)
    rw [henqueued, List.map_append, h.addresses]
    exact List.range_succ.symm
  · rcases h.enqueued with ⟨started, hprogress, hbytes⟩
    rw [Progress, hunsent] at hprogress
    refine ⟨started ++ [frame], ⟨hprogress.left, ?_⟩, ?_⟩
    · rw [List.append_assoc]
      exact hprogress.right
    · change (asyncSendFrame s.net
        (container s.nextAddress frame)).enqueued.map _ = _
      rw [henqueued, List.map_append, hbytes, List.append_assoc]
      rfl

theorem finish_delivering (h : Delivering host sums t s)
    (hunsent : s.unsent = some []) :
    Delivering host sums t
      { s with
        sender := Sender.sendMRP host sums t s.sender
        unsent := none } := by
  rcases h.enqueued with ⟨started, hprogress, hbytes⟩
  rw [Progress, hunsent] at hprogress
  rcases hprogress with ⟨hpc, hstarted⟩
  rw [List.append_nil] at hstarted
  have hstep : Sender.sendMRP host sums t s.sender =
      Sender.step host sums t s.sender .thread := by
    rw [Sender.step, Sender.thread, hpc]
  refine ⟨?_, ?_, h.balanced, h.allFit, ?_, h.addresses, [], rfl, ?_⟩
  · change Sender.Inv t (Sender.sendMRP host sums t s.sender)
    rw [hstep]
    exact Sender.step_inv host sums t s.sender .thread h.sender
  · intro hsend
    cases hsend
  · intro rest hrest
    cases hrest
  · change _ = (s.sender.mrps ++ [_]).flatMap Sender.MRP.frames ++ []
    rw [hbytes, hstarted, List.append_nil, List.flatMap_append]
    congr 1
    exact (List.append_nil _).symm

theorem sendFrames_delivering (h : Delivering host sums t s)
    (hpc : s.sender.pc = .send)
    (hfits : s.unsent = none ->
      54 + 12 * s.sender.multicastRequests.length ≤ 1500 ∨
        t.l1UnicastRequestHdrs ++ t.l1MulticastRequestHdrs = []) :
    Delivering host sums t (sendFrames host sums t s) := by
  unfold sendFrames
  cases hunsent : s.unsent with
  | none => exact start_delivering h hunsent hpc (hfits hunsent)
  | some frames =>
      cases frames with
      | nil => exact finish_delivering h hunsent
      | cons frame rest =>
          dsimp only
          split
          · next hroom => exact enqueue_delivering h hunsent hroom
          · exact h

theorem handler_delivering (hring : forall i, ring i = true)
    (h : Delivering host sums t s) (i : Fin n) (rc : Int) :
    Delivering host sums t
      { s with net := doSendQueuedFrames ring s.net i rc } := by
  have hmove := handler_move ring s.net i rc
  have henqueued : (doSendQueuedFrames ring s.net i rc).enqueued =
      s.net.enqueued := by
    generalize doSendQueuedFrames ring s.net i rc = net' at hmove
    cases hmove <;> rfl
  refine ⟨h.sender, h.ready,
    Conveyor.steps_balanced (handler_view hmove) h.balanced,
    handler_allFit hring hmove h.allFit, h.unsent, ?_, ?_⟩
  · change (doSendQueuedFrames ring s.net i rc).enqueued.map _ = _
    rw [henqueued]
    exact h.addresses
  · rcases h.enqueued with ⟨started, hprogress, hbytes⟩
    refine ⟨started, hprogress, ?_⟩
    change (doSendQueuedFrames ring s.net i rc).enqueued.map _ = _
    rw [henqueued]
    exact hbytes

theorem step_delivering (hring : forall i, ring i = true)
    (h : Delivering host sums t s) {a : Action n} (hC : BatchFits t s a) :
    Delivering host sums t (step host sums t ring s a) := by
  cases a with
  | sender a =>
      unfold step
      dsimp only
      split
      · next ha =>
          exact sendFrames_delivering h ha.right
            (hC (congrArg Action.sender ha.left) ha.right)
      · next ha => exact sender_delivering h ha
  | handler i rc => exact handler_delivering hring h i rc

end Steps

end System

/-!
## Runs
-/

structure Delivered {n : Nat} (t : Templates) (s : State n) : Prop where
  notRejected : s.net.rejected = []
  conserved : (s.net.enqueued : Multiset DataContainer) =
    s.net.asyncSendData + ∑ i, (s.net.handlers i).holding +
      s.net.handed.map Handed.data
  once : s.net.enqueued.Nodup
  whole : forall x, x ∈ s.net.handed -> x.packet = x.data.data.bytes
  enqueued : exists started, (s.unsent = none -> started = []) ∧
    s.net.enqueued.map (fun d => d.data.bytes) =
      s.sender.mrps.flatMap Sender.MRP.frames ++ started
  perEndpoint : forall mrp, mrp ∈ s.sender.mrps -> Sender.SameForAll t mrp
  counted : s.sender.l1TriggersSent.toNat = s.sender.sent.length % 2 ^ 64

/--
When every batch is small enough or nobody is to be sent anything, no frame is
rejected: a frame that was dequeued is held by a handler or was handed to the
driver, and the enqueued frames are those of the counted MRPs.
-/
theorem counted_frames_delivered (host : Host) (sums : ChecksumFunctions)
    (t : Templates) {n : Nat} {ring : Fin n -> Bool}
    (hring : forall i, ring i = true) {as : List (Action n)}
    (hmeet : StepsMeet (BatchFits t) (step host sums t ring)
      (State.initial n) as) :
    Delivered t (run (step host sums t ring) (State.initial n) as) := by
  have h := run_invariant_of_stepsMeet (I := Delivering host sums t)
    (fun s a h hC => step_delivering hring h hC)
    (initial_delivering host sums t) hmeet
  generalize run (step host sums t ring) (State.initial n) as = s at h
  have hconserved := (balanced_iff s.net).mp h.balanced
  rw [h.allFit.rejected, Multiset.coe_nil, add_zero] at hconserved
  refine ⟨h.allFit.rejected, hconserved, ?_, h.allFit.handed, ?_,
    h.sender.recorded.mrps, h.sender.recorded.triggersSent⟩
  · apply List.Nodup.of_map (fun d : DataContainer => d.data.address)
    rw [h.addresses]
    exact List.nodup_range
  · rcases h.enqueued with ⟨started, hprogress, hbytes⟩
    refine ⟨started, ?_, hbytes⟩
    intro hunsent
    rw [Progress, hunsent] at hprogress
    exact hprogress

def transmitOne : List (Action 1) :=
  (Sender.requestAndPush (requestedEvent 1, false)).map .sender ++
    List.replicate 9 (.sender .thread) ++
    [.handler 0 0, .handler 0 0, .handler 0 66]

theorem counted_frames_delivered_one :
    Delivered loopbackTemplates
      (run (step loopbackHost ChecksumFunctions.reference loopbackTemplates
        (fun _ : Fin 1 => true)) (State.initial 1) transmitOne) :=
  counted_frames_delivered loopbackHost ChecksumFunctions.reference
    loopbackTemplates (fun _ => rfl) (by decide)

/-!
## A batch that is lost

The sender does not send before its run makes the first MRP, so up to there its
own runs are runs of the whole system.
-/

section Lost

variable {n : Nat} (host : Host) (sums : ChecksumFunctions) (t : Templates)
  (ring : Fin n -> Bool)

theorem sender_step_mrps (s : Sender.State) (a : Sender.Action) :
    s.mrps.length ≤ (Sender.step host sums t s a).mrps.length ∧
      (a = .thread ∧ s.pc = .send ->
        s.mrps.length < (Sender.step host sums t s a).mrps.length) := by
  by_cases ha : a = .thread ∧ s.pc = .send
  · have hstep : Sender.step host sums t s a = Sender.sendMRP host sums t s := by
      rw [ha.left, Sender.step, Sender.thread, ha.right]
    have hlength : (Sender.sendMRP host sums t s).mrps.length =
        s.mrps.length + 1 := by
      simp [Sender.sendMRP]
    rw [hstep, hlength]
    lia
  · rw [(sender_step_quiet host sums t s ha).left]
    exact ⟨Nat.le_refl _, fun h => absurd h ha⟩

theorem sender_run_mrps (s : Sender.State) (as : List Sender.Action) :
    s.mrps.length ≤ (run (Sender.step host sums t) s as).mrps.length :=
  run_invariant (I := fun s' => s.mrps.length ≤ s'.mrps.length)
    (fun s' a h => Nat.le_trans h (sender_step_mrps host sums t s' a).left)
    (Nat.le_refl _) as

theorem run_sender (as : List Sender.Action) {s : State n}
    (hquiet : (run (Sender.step host sums t) s.sender as).mrps.length ≤
      s.sender.mrps.length) :
    run (step host sums t ring) s (as.map .sender) =
      { s with sender := run (Sender.step host sums t) s.sender as } := by
  induction as generalizing s with
  | nil => rfl
  | cons a rest ih =>
      have hrest := sender_run_mrps host sums t
        (Sender.step host sums t s.sender a) rest
      have hstep := sender_step_mrps host sums t s.sender a
      have ha : ¬ (a = .thread ∧ s.sender.pc = .send) := by
        intro h
        have hlt := hstep.right h
        rw [run_cons] at hquiet
        lia
      have hone : step host sums t ring s (.sender a) =
          { s with sender := Sender.step host sums t s.sender a } := by
        rw [step, if_neg ha]
      rw [List.map_cons, run_cons, hone, ih (by
        rw [run_cons] at hquiet
        exact Nat.le_trans hquiet hstep.left)]
      rfl

def sendAndHandle : List (Action 1) :=
  List.replicate 3 (.sender .thread) ++ List.replicate 3 (.handler 0 0)

theorem run_sendAndHandle (ring : Fin 1 -> Bool) {s : State 1}
    {frame : List UInt8} (hpc : s.sender.pc = .send) (hunsent : s.unsent = none)
    (hframes : framesOf host sums t s.sender = [frame])
    (hnet : s.net = PFringHandler.State.initial 1)
    (hlong : 1500 < frame.length) (hfits : frame.length < 4294967296) :
    let s' := run (step host sums t ring) s sendAndHandle
    s'.sender = Sender.sendMRP host sums t s.sender ∧
      s'.net.rejected = [container s.nextAddress frame] ∧
      s'.net.handed = [] ∧ s'.net.asyncSendData = [] ∧
      s'.net.freed = [{ address := s.nextAddress, bytes := frame }] := by
  have hfails := sendPacketFails_long (ring 0) frame hlong hfits
  simp [sendAndHandle, List.replicate, step, sendFrames, hpc, hunsent, hframes,
    hnet, PFringHandler.State.initial, asyncSendFrame, doSendQueuedFrames,
    container, hfails]

end Lost

def oversizedConfig : Config :=
  { loopbackConfig with
    maxTriggersPerMRP := 121
    multicastGroupNames := [] }

theorem counted_but_rejected :
    exists t : Templates, exists as : List (Action 1),
      Initialize loopbackHost oversizedConfig Templates.initial = .ok t ∧
        let s := run (step loopbackHost ChecksumFunctions.reference t
          (fun _ => true)) (State.initial 1) as
        s.sender.l1TriggersSent = 121 ∧ s.sender.sent.length = 121 ∧
          s.net.rejected.length = 1 ∧ s.net.handed = [] ∧
          s.net.asyncSendData = [] ∧ s.net.freed.length = 1 := by
  have hcfg : oversizedConfig.WellFormed loopbackHost :=
    ⟨by decide, fun _ _ => rfl, by decide, by decide⟩
  rcases initialize_wellFormed hcfg with
    ⟨t, hinit, hmax, hunicast, hmulticast⟩
  have hmaxNat : t.maxTriggersPerL1MRP.toNat = 121 := by
    rw [hmax]
    rfl
  generalize hrequests : List.replicate 121 (requestedEvent 0, false) = requests
  have hcount : requests.length = 121 := by
    rw [← hrequests, List.length_replicate]
  rcases Sender.run_assembles loopbackHost ChecksumFunctions.reference t requests
    (List.ne_nil_of_length_pos (by lia)) (by lia) with
    ⟨as, hpc, hbatch, hmrps⟩
  have hinv := Sender.run_inv loopbackHost ChecksumFunctions.reference t as
  have hrun := run_sender loopbackHost ChecksumFunctions.reference t
    (fun _ : Fin 1 => true) as (s := State.initial 1)
    (Nat.le_of_eq (congrArg List.length hmrps))
  have hone : exists template,
      t.l1UnicastRequestHdrs ++ t.l1MulticastRequestHdrs = [template] :=
    ⟨_, by
      rw [hunicast, hmulticast]
      rfl⟩
  rcases hone with ⟨template, htemplate⟩
  refine ⟨t, as.map .sender ++ sendAndHandle, hinit, ?_⟩
  rw [run_append, hrun, show (State.initial 1).sender = Sender.State.initial from rfl]
  generalize run (Sender.step loopbackHost ChecksumFunctions.reference t)
    Sender.State.initial as = sender at hpc hbatch hmrps hinv ⊢
  have hlength : sender.multicastRequests.length = 121 := by
    have h := congrArg List.length hbatch
    rwa [List.length_map, List.length_map, hcount] at h
  have hsize : batchSize t sender.multicastRequests = 121 := by
    rw [batchSize]
    lia
  have hframes : framesOf loopbackHost ChecksumFunctions.reference t sender =
      [frameOf ChecksumFunctions.reference Sender.Trigger.hdr
        (batch t sender.multicastRequests) template] := by
    rw [framesOf, asyncSendMRP_frames (by lia), htemplate]
    rfl
  have hframe : (frameOf ChecksumFunctions.reference Sender.Trigger.hdr
      (batch t sender.multicastRequests) template).length = 1506 := by
    rw [frameOf_length, batch_length, hsize]
  rcases run_sendAndHandle loopbackHost ChecksumFunctions.reference t
    (fun _ => true) (s := { State.initial 1 with sender := sender }) hpc rfl hframes rfl
    (by rw [hframe]; decide) (by rw [hframe]; decide) with
    ⟨hsender, hrejected, hhanded, hqueue, hfreed⟩
  have hrecorded : Sender.Recorded t
      (Sender.sendMRP loopbackHost ChecksumFunctions.reference t sender) :=
    Sender.sendMRP_recorded hinv.recorded hinv.bounded.left
  have hsent : (Sender.sendMRP loopbackHost ChecksumFunctions.reference t
      sender).sent.length = 121 := by
    rw [Sender.sendMRP_eq hinv.bounded.left]
    simp [Sender.State.sent, hmrps, hlength]
  dsimp only
  refine ⟨?_, ?_, ?_, hhanded, hqueue, ?_⟩
  · apply UInt64.toNat_inj.mp
    rw [hsender, hrecorded.triggersSent, hsent]
    rfl
  · rw [hsender, hsent]
  · rw [hrejected]
    rfl
  · rw [hfreed]
    rfl

end Transmission
end L1
end FarmNetworking
