import FarmNetworking.L1.Drain
import FarmNetworking.L1.FrameChecksums
import FarmNetworking.L1.MRPRoundTrip
import FarmNetworking.L1.PushOrder
import FarmNetworking.L1.Transmission

/-!
# From the request to the front ends

The layers are put together here: requests are pushed by any number of threads,
the sender collects them into batches, each batch becomes one frame for each
endpoint, and the packet handlers hand the frames to the driver.

Seen from the sender alone, the packet handlers do nothing, and a call of
`Async_SendMRP` is the one step that ends it.  So what is known about the
interleavings of sender and producers holds in the whole system.
-/

namespace FarmNetworking
namespace L1
namespace Transmission

open Foundation Runs ByteString
open Structs Socket EthernetUtils PFringHandler

/-!
## The sender inside of the system
-/

section Projection

variable {n : Nat} (host : Host) (sums : ChecksumFunctions) (t : Templates)
  (ring : Fin n -> Bool)

theorem step_sender (s : State n) (a : Action n) :
    (step host sums t ring s a).sender = s.sender ∨
      exists b, a = .sender b ∧ (step host sums t ring s a).sender =
        Sender.step host sums t s.sender b := by
  cases a with
  | handler i rc => exact Or.inl rfl
  | sender b =>
      unfold step
      dsimp only
      split
      · next hsend =>
          unfold sendFrames
          split
          · exact Or.inl rfl
          · refine Or.inr ⟨b, rfl, ?_⟩
            rw [hsend.left, Sender.step, Sender.thread, hsend.right]
          · split
            · exact Or.inl rfl
            · exact Or.inl rfl
      · exact Or.inr ⟨b, rfl, rfl⟩

/-- The sender of the system makes a run of its own, with steps of the system's. -/
theorem run_projects (as : List (Action n)) (s : State n) :
    exists bs, (bs.map Action.sender).Sublist as ∧
      (run (step host sums t ring) s as).sender =
        run (Sender.step host sums t) s.sender bs := by
  have hstep : forall (s : State n) (sender : Sender.State) (a : Action n),
      s.sender = sender -> (step host sums t ring s a).sender = sender ∨
        exists b, a = .sender b ∧ (step host sums t ring s a).sender =
          Sender.step host sums t sender b := by
    rintro s _ a rfl
    exact step_sender host sums t ring s a
  exact exists_followed_run
    (R := fun (s : State n) (sender : Sender.State) => s.sender = sender) hstep rfl as

end Projection

/-!
## Where the triggers come from
-/

structure Genuine (Q : TriggerRawHDR -> Prop) (s : Sender.State) : Prop where
  producers : forall p hdr, s.producers p = some hdr -> Q hdr
  pushed : forall x, x ∈ s.pushed -> Q x.hdr

/-- The label of a request satisfies the property for the header it builds. -/
def Requests (Q : TriggerRawHDR -> Prop) : Sender.Action -> Prop
  | .request _ event zSuppressed => Q (generateTriggerHDR event zSuppressed)
  | .setFlushBurst _ | .push _ | .thread => True

section Sources

variable {host : Host} {sums : ChecksumFunctions} {t : Templates}
  {Q : TriggerRawHDR -> Prop} {s : Sender.State}

theorem request_genuine (h : Genuine Q s) {producer : Nat} {event : Event}
    {zSuppressed : Bool} (hnew : Q (generateTriggerHDR event zSuppressed)) :
    Genuine Q (Sender.request s producer event zSuppressed) := by
  unfold Sender.request
  split
  · exact h
  · split
    · exact h
    · refine ⟨?_, h.pushed⟩
      intro p hdr hp
      by_cases hproducer : p = producer
      · subst hproducer
        change Function.update s.producers p _ p = some hdr at hp
        rw [Function.update_self] at hp
        cases hp
        exact hnew
      · change Function.update s.producers producer _ p = some hdr at hp
        rw [Function.update_of_ne hproducer] at hp
        exact h.producers p hdr hp

theorem push_genuine (h : Genuine Q s) (producer : Nat) :
    Genuine Q (Sender.push s producer) := by
  unfold Sender.push
  split
  · exact h
  · next hdr hready =>
      constructor
      · intro p other hp
        by_cases hproducer : p = producer
        · subst hproducer
          change Function.update s.producers p none p = some other at hp
          rw [Function.update_self] at hp
          cases hp
        · change Function.update s.producers producer none p = some other at hp
          rw [Function.update_of_ne hproducer] at hp
          exact h.producers p other hp
      · intro x hx
        rcases List.mem_append.mp hx with hold | hnew
        · exact h.pushed x hold
        · rw [List.mem_singleton.mp hnew]
          exact h.producers producer hdr hready

theorem thread_genuine (h : Genuine Q s) :
    Genuine Q (Sender.thread host sums t s) := by
  have hmove := Sender.thread_move host sums t s
  generalize Sender.thread host sums t s = s' at hmove
  cases hmove <;> exact ⟨h.producers, h.pushed⟩

theorem step_genuine (h : Genuine Q s) {a : Sender.Action} (ha : Requests Q a) :
    Genuine Q (Sender.step host sums t s a) := by
  cases a with
  | setFlushBurst b => exact ⟨h.producers, h.pushed⟩
  | request producer event zSuppressed => exact request_genuine h ha
  | push producer => exact push_genuine h producer
  | thread => exact thread_genuine h

end Sources

theorem initial_genuine (Q : TriggerRawHDR -> Prop) :
    Genuine Q Sender.State.initial := by
  constructor
  · intro p hdr hp
    cases hp
  · intro x hx
    cases hx

def RequestedIn (bs : List Sender.Action) (hdr : TriggerRawHDR) : Prop :=
  exists p event zSuppressed, Sender.Action.request p event zSuppressed ∈ bs ∧
    hdr = generateTriggerHDR event zSuppressed

theorem run_genuine (host : Host) (sums : ChecksumFunctions) (t : Templates)
    (bs : List Sender.Action) :
    Genuine (RequestedIn bs)
      (run (Sender.step host sums t) Sender.State.initial bs) := by
  have hrequests : forall a, a ∈ bs -> Requests (RequestedIn bs) a := by
    intro a ha
    cases a with
    | request producer event zSuppressed =>
        exact ⟨producer, event, zSuppressed, ha, rfl⟩
    | _ => exact trivial
  have hmeet : StepsMeet (fun _ a => Requests (RequestedIn bs) a)
      (Sender.step host sums t) Sender.State.initial bs :=
    stepsMeet_of_mem (fun a ha _ => hrequests a ha) Sender.State.initial
  exact run_invariant_of_stepsMeet (I := Genuine (RequestedIn bs))
    (fun s a h ha => step_genuine h ha) (initial_genuine _) hmeet

/-!
## What the frames consist of
-/

def content (x : Sender.Trigger) : ReceivedTrigger :=
  receiveTrigger x.hdr.bytes

theorem receiveTrigger_bytes (hdr : TriggerRawHDR) (rest : List UInt8) :
    receiveTrigger (hdr.bytes ++ rest) = receiveTrigger hdr.bytes := by
  simp (disch := simp) only [receiveTrigger, field, slice_append_left]

theorem content_requested {x : Sender.Trigger} {event : Event}
    {zSuppressed : Bool} (h : x.hdr = generateTriggerHDR event zSuppressed) :
    content x = requested event zSuppressed := by
  have hread := receiveTrigger_generateTriggerHDR event zSuppressed []
  rwa [List.append_nil, ← h] at hread

/-- A batch whose frames are short enough, or for which there are no frames. -/
def Fitting (t : Templates) (triggers : List Sender.Trigger) : Prop :=
  54 + 12 * triggers.length ≤ 1500 ∨
    t.l1UnicastRequestHdrs ++ t.l1MulticastRequestHdrs = []

def framesFor (sums : ChecksumFunctions) (t : Templates)
    (triggers : List Sender.Trigger) : List (List UInt8) :=
  (t.l1UnicastRequestHdrs ++ t.l1MulticastRequestHdrs).map
    (frameOf sums Sender.Trigger.hdr triggers)

/-- The triggers of an MRP that was counted or is being enqueued. -/
def State.batches {n : Nat} (s : State n) : List (List Sender.Trigger) :=
  s.sender.mrps.map Sender.MRP.triggers ++
    match s.unsent with
    | none => []
    | some _ => [s.sender.multicastRequests.reverse]

structure Composed {n : Nat} (sums : ChecksumFunctions) (t : Templates)
    (s : State n) : Prop where
  fitting : forall triggers, triggers ∈ s.batches -> Fitting t triggers
  mrps : s.sender.mrps.flatMap Sender.MRP.frames =
    (s.sender.mrps.map Sender.MRP.triggers).flatMap (framesFor sums t)

section Composition

variable {n : Nat} {host : Host} {sums : ChecksumFunctions} {t : Templates}
  {ring : Fin n -> Bool} {s : State n}

theorem framesOf_eq {s : Sender.State} (hinv : Sender.Inv t s)
    (h : Fitting t s.multicastRequests) :
    framesOf host sums t s = framesFor sums t s.multicastRequests.reverse := by
  have hsize : batchSize t s.multicastRequests = s.multicastRequests.length :=
    Nat.min_eq_left hinv.bounded.left
  have hbatch : batch t s.multicastRequests = s.multicastRequests.reverse := by
    rw [batch]
    exact List.take_of_length_le
      (by rw [List.length_reverse]; exact hinv.bounded.left)
  rw [framesOf, framesFor, ← hbatch]
  rcases h with hle | hnone
  · exact asyncSendMRP_frames (by lia)
  · rw [asyncSendMRP_eq, hnone]
    rfl

theorem Fitting.reverse {triggers : List Sender.Trigger} :
    Fitting t triggers.reverse <-> Fitting t triggers := by
  rw [Fitting, Fitting, List.length_reverse]

theorem composed_same {s' : State n} (h : Composed sums t s)
    (hmrps : s'.sender.mrps = s.sender.mrps)
    (hbatches : s'.batches = s.batches) : Composed sums t s' := by
  refine ⟨?_, ?_⟩
  · rw [hbatches]
    exact h.fitting
  · rw [hmrps]
    exact h.mrps

theorem sendFrames_composed (hdelivering : Delivering host sums t s)
    (h : Composed sums t s)
    (hfits : s.unsent = none -> Fitting t s.sender.multicastRequests) :
    Composed sums t (sendFrames host sums t s) := by
  unfold sendFrames
  split
  · next hunsent =>
      refine ⟨?_, h.mrps⟩
      intro triggers htriggers
      rcases List.mem_append.mp htriggers with hold | hnew
      · exact h.fitting triggers (List.mem_append_left _ hold)
      · rw [List.mem_singleton.mp hnew]
        exact Fitting.reverse.mpr (hfits hunsent)
  · next hunsent =>
      have hbound := hdelivering.sender.bounded.left
      have hlast : Fitting t s.sender.multicastRequests := by
        refine Fitting.reverse.mp (h.fitting _ (List.mem_append_right _ ?_))
        rw [hunsent]
        exact List.mem_singleton_self _
      have hframes : framesOf host sums t s.sender =
          framesFor sums t s.sender.multicastRequests.reverse :=
        framesOf_eq hdelivering.sender hlast
      rw [framesOf] at hframes
      rw [Sender.sendMRP_eq hbound]
      refine ⟨?_, ?_⟩
      · intro triggers htriggers
        refine h.fitting triggers ?_
        rw [State.batches, hunsent]
        rw [State.batches, List.append_nil, List.map_append] at htriggers
        exact htriggers
      · dsimp only
        rw [List.flatMap_append, List.map_append, List.flatMap_append, h.mrps]
        congr 1
        simpa using hframes
  · next frame rest hunsent =>
      split
      · refine composed_same h rfl ?_
        rw [State.batches, State.batches, hunsent]
      · exact h

theorem step_composed (hdelivering : Delivering host sums t s)
    (h : Composed sums t s) {a : Action n} (hC : BatchFits t s a) :
    Composed sums t (step host sums t ring s a) := by
  cases a with
  | handler i rc => exact composed_same h rfl rfl
  | sender a =>
      unfold step
      dsimp only
      split
      · next ha =>
          exact sendFrames_composed hdelivering h
            (hC (congrArg Action.sender ha.left) ha.right)
      · next ha =>
          rcases sender_step_quiet host sums t s.sender ha with ⟨hmrps, hsame⟩
          refine composed_same h hmrps ?_
          rw [State.batches, State.batches, hmrps]
          dsimp only
          cases hunsent : s.unsent with
          | none => rfl
          | some rest =>
              rcases hdelivering.enqueued with ⟨started, hprogress, _⟩
              rw [Progress, hunsent] at hprogress
              rw [(hsame hprogress.left).right]

end Composition

/-!
## Runs
-/

theorem initial_composed {n : Nat} (sums : ChecksumFunctions) (t : Templates) :
    Composed sums t (State.initial n) := by
  refine ⟨?_, rfl⟩
  intro triggers htriggers
  cases htriggers

section Runs

variable {n : Nat} {host : Host} {sums : ChecksumFunctions} {t : Templates}
  {ring : Fin n -> Bool}

theorem run_composed (hring : forall i, ring i = true) {as : List (Action n)}
    (hmeet : StepsMeet (BatchFits t) (step host sums t ring)
      (State.initial n) as) :
    Delivering host sums t (run (step host sums t ring) (State.initial n) as) ∧
      Composed sums t (run (step host sums t ring) (State.initial n) as) :=
  run_invariant_of_stepsMeet
    (I := fun s => Delivering host sums t s ∧ Composed sums t s)
    (fun _ _ h hC => ⟨step_delivering hring h.left hC,
      step_composed h.left h.right hC⟩)
    ⟨initial_delivering host sums t, initial_composed sums t⟩ hmeet

structure Settled (s : State n) : Prop where
  unsent : s.unsent = none
  queue : s.net.asyncSendData = []
  handlers : forall i, s.net.handlers i = .idle

section Frames

variable {s : State n}

theorem handed_mem (h : Delivering host sums t s) (hcomposed : Composed sums t s)
    {x : Handed} (hx : x ∈ s.net.handed) :
    exists triggers, triggers ∈ s.batches ∧
      x.packet ∈ framesFor sums t triggers := by
  have hconserved := (balanced_iff s.net).mp h.balanced
  have hentered : x.data ∈ s.net.enqueued := by
    rw [← Multiset.mem_coe, hconserved, Multiset.mem_add, Multiset.mem_add,
      Multiset.mem_add, Multiset.mem_coe]
    exact Or.inr (Or.inl (List.mem_map_of_mem hx))
  rcases h.enqueued with ⟨started, hprogress, hbytes⟩
  have hpacket : x.packet ∈
      s.sender.mrps.flatMap Sender.MRP.frames ++ started := by
    rw [h.allFit.handed x hx, ← hbytes]
    exact List.mem_map_of_mem hentered
  rcases List.mem_append.mp hpacket with hcounted | hcurrent
  · rw [hcomposed.mrps] at hcounted
    rcases List.mem_flatMap.mp hcounted with ⟨triggers, htriggers, hframe⟩
    exact ⟨triggers, List.mem_append_left _ htriggers, hframe⟩
  · unfold Progress at hprogress
    cases hunsent : s.unsent with
    | none =>
        rw [hunsent] at hprogress
        rw [hprogress] at hcurrent
        cases hcurrent
    | some rest =>
        rw [hunsent] at hprogress
        have hlast : s.sender.multicastRequests.reverse ∈ s.batches := by
          rw [State.batches, hunsent]
          exact List.mem_append_right _ (List.mem_singleton_self _)
        refine ⟨_, hlast, ?_⟩
        have hframes : framesOf host sums t s.sender =
            framesFor sums t s.sender.multicastRequests.reverse :=
          framesOf_eq h.sender (Fitting.reverse.mp (hcomposed.fitting _ hlast))
        rw [← hframes, ← hprogress.right]
        exact List.mem_append_left _ hcurrent

theorem settled_perm (h : Delivering host sums t s)
    (hcomposed : Composed sums t s) (hsettled : Settled s) :
    (s.net.handed.map Handed.packet).Perm
      ((s.sender.mrps.map Sender.MRP.triggers).flatMap (framesFor sums t)) := by
  have hconserved := (balanced_iff s.net).mp h.balanced
  have hheld : ∑ i, (s.net.handlers i).holding = 0 :=
    Finset.sum_eq_zero fun i _ => by rw [hsettled.handlers i]; rfl
  rw [hsettled.queue, hheld, h.allFit.rejected, Multiset.coe_nil, add_zero,
    add_zero, zero_add, Multiset.coe_eq_coe] at hconserved
  rcases h.enqueued with ⟨started, hprogress, hbytes⟩
  rw [Progress, hsettled.unsent] at hprogress
  rw [hprogress, List.append_nil, hcomposed.mrps] at hbytes
  rw [← hbytes]
  have hwhole : s.net.handed.map Handed.packet =
      (s.net.handed.map Handed.data).map (fun d => d.data.bytes) := by
    rw [List.map_map]
    exact List.map_congr_left h.allFit.handed
  rw [hwhole]
  exact (hconserved.map _).symm

end Frames

theorem batches_pushed {s : State n} (hdealt : Sender.Dealt s.sender)
    {triggers : List Sender.Trigger} (htriggers : triggers ∈ s.batches)
    {x : Sender.Trigger} (hx : x ∈ triggers) : x ∈ s.sender.pushed := by
  refine hdealt.retained_sublist.subset ?_
  rw [Sender.State.retained, List.mem_append, List.mem_append]
  rcases List.mem_append.mp htriggers with hcounted | hcurrent
  · rcases List.mem_map.mp hcounted with ⟨mrp, hmrp, rfl⟩
    exact Or.inl (Or.inl (List.mem_flatMap.mpr
      ⟨mrp, hmrp, List.mem_reverse.mpr hx⟩))
  · split at hcurrent
    · cases hcurrent
    · rw [List.mem_singleton.mp hcurrent] at hx
      exact Or.inl (Or.inr (List.mem_reverse.mp hx))

theorem drained_sent {s : Sender.State} (hdealt : Sender.Dealt s)
    (hdrained : Sender.Drained s) {x : Sender.Trigger} (hx : x ∈ s.pushed)
    (hkept : x ∉ s.deleted) : exists mrp, mrp ∈ s.mrps ∧ x ∈ mrp.triggers := by
  rcases hdealt.mem_pushed hx with hdiscarded | hretained | hqueue
  · rw [Sender.State.discarded, hdrained.pc] at hdiscarded
    simp [Sender.Pc.doomed, hkept] at hdiscarded
  · rw [Sender.State.retained, hdrained.pc, hdrained.batch] at hretained
    simpa [Sender.Pc.kept, Sender.MRP.backwards] using hretained
  · rw [hdrained.queue] at hqueue
    cases hqueue

end Runs

/-!
## The whole way
-/

def endpoints (host : Host) (cfg : Config) : List Endpoint :=
  cfg.unicastEndpoints host ++ cfg.multicastEndpoints host

/-- The frame brings the triggers to the endpoint, and a receiver accepts it. -/
structure Brings (host : Host) (cfg : Config) (sums : ChecksumFunctions)
    (triggers : List Sender.Trigger) (e : Endpoint) (frame : List UInt8) :
    Prop where
  carries : Carries host cfg (triggers.map content) e frame
  checkData : checkData (frame.drop 14) 20 = true
  checkUDP : checkUDP sums (UDPHDR.ofBytes frame) (frame.drop 42)
    (UInt32.ofNat (12 + 12 * triggers.length)) = true

structure Served {n : Nat} (host : Host) (cfg : Config)
    (sums : ChecksumFunctions) (as : List (Action n)) (s : State n) : Prop where
  handed : forall x, x ∈ s.net.handed ->
    exists triggers, triggers ∈ s.batches ∧
      exists e, e ∈ endpoints host cfg ∧
        Brings host cfg sums triggers e x.packet
  requested : forall triggers, triggers ∈ s.batches ->
    forall x, x ∈ triggers -> x ∈ s.sender.pushed ∧
      exists p event zSuppressed,
        .sender (.request p event zSuppressed) ∈ as ∧
          content x = requested event zSuppressed
  once : Settled s -> (s.net.handed.map Handed.packet).Perm
    (s.sender.mrps.flatMap fun mrp => (endpoints host cfg).map fun e =>
      frameOf sums Sender.Trigger.hdr mrp.triggers (endpointTemplate host cfg e))
  everybody : Settled s -> Sender.Drained s.sender ->
    forall x, x ∈ s.sender.pushed -> x ∉ s.sender.deleted ->
      exists mrp, mrp ∈ s.sender.mrps ∧ x ∈ mrp.triggers ∧
        forall e, e ∈ endpoints host cfg ->
          exists h, h ∈ s.net.handed ∧
            Brings host cfg sums mrp.triggers e h.packet

section Endpoints

variable {host : Host} {cfg : Config} {sums : ChecksumFunctions} {t : Templates}

theorem initialize_endpoints (hcfg : cfg.WellFormed host)
    (hinit : Initialize host cfg Templates.initial = .ok t) :
    t.l1UnicastRequestHdrs ++ t.l1MulticastRequestHdrs =
      (endpoints host cfg).map (endpointTemplate host cfg) := by
  rcases initialize_wellFormed hcfg with ⟨t', hinit', _, hunicast, hmulticast⟩
  rw [hinit] at hinit'
  cases hinit'
  rw [hunicast, hmulticast, endpoints, List.map_append]

theorem initialize_limit (hcfg : cfg.WellFormed host)
    (hinit : Initialize host cfg Templates.initial = .ok t) :
    t.maxTriggersPerL1MRP = cfg.maxTriggersPerMRP := by
  rcases initialize_wellFormed hcfg with ⟨t', hinit', hlimit, _⟩
  rw [hinit] at hinit'
  cases hinit'
  exact hlimit

theorem framesFor_endpoints
    (ht : t.l1UnicastRequestHdrs ++ t.l1MulticastRequestHdrs =
      (endpoints host cfg).map (endpointTemplate host cfg))
    (triggers : List Sender.Trigger) :
    framesFor sums t triggers = (endpoints host cfg).map fun e =>
      frameOf sums Sender.Trigger.hdr triggers (endpointTemplate host cfg e) := by
  rw [framesFor, ht, List.map_map]
  rfl

theorem frameOf_brings (hcfg : cfg.WellFormed host) (hsums : sums.Documented)
    (ht : t.l1UnicastRequestHdrs ++ t.l1MulticastRequestHdrs =
      (endpoints host cfg).map (endpointTemplate host cfg))
    {triggers : List Sender.Trigger} (hfits : Fitting t triggers)
    {e : Endpoint} (he : e ∈ endpoints host cfg) :
    Brings host cfg sums triggers e
      (frameOf sums Sender.Trigger.hdr triggers (endpointTemplate host cfg e)) := by
  have hsize : 54 + 12 * triggers.length ≤ 1500 := by
    rcases hfits with hle | hnone
    · exact hle
    · rw [ht, List.map_eq_nil_iff] at hnone
      rw [hnone] at he
      cases he
  have hlimit : 40 + 12 * triggers.length ≤ 65535 := by lia
  have hcontent : forall (x : Sender.Trigger) (rest : List UInt8),
      receiveTrigger (x.hdr.bytes ++ rest) = content x :=
    fun x rest => receiveTrigger_bytes x.hdr rest
  constructor
  · exact frameOf_carries hcfg sums hcontent triggers hlimit e
  · exact frameOf_checkData Sender.Trigger.hdr triggers
      (endpointTemplate host cfg e) hsums
  · exact frameOf_checkUDP Sender.Trigger.hdr triggers
      (endpointTemplate host cfg e) hsums hlimit

theorem served {n : Nat} {s : State n} {as : List (Action n)}
    {bs : List Sender.Action} (hcfg : cfg.WellFormed host) (hsums : sums.Documented)
    (ht : t.l1UnicastRequestHdrs ++ t.l1MulticastRequestHdrs =
      (endpoints host cfg).map (endpointTemplate host cfg))
    (hdelivering : Delivering host sums t s) (hcomposed : Composed sums t s)
    (hdealt : Sender.Dealt s.sender) (hgenuine : Genuine (RequestedIn bs) s.sender)
    (hsub : (bs.map Action.sender).Sublist as) : Served host cfg sums as s := by
  have hmrp : forall mrp, mrp ∈ s.sender.mrps -> mrp.triggers ∈ s.batches :=
    fun mrp h => List.mem_append_left _ (List.mem_map_of_mem h)
  have hperm : Settled s -> (s.net.handed.map Handed.packet).Perm
      (s.sender.mrps.flatMap fun mrp => (endpoints host cfg).map fun e =>
        frameOf sums Sender.Trigger.hdr mrp.triggers
          (endpointTemplate host cfg e)) := by
    intro hsettled
    have h := settled_perm hdelivering hcomposed hsettled
    simpa only [List.flatMap_map, framesFor_endpoints ht] using h
  refine ⟨?_, ?_, hperm, ?_⟩
  · intro x hx
    rcases handed_mem hdelivering hcomposed hx with ⟨triggers, htriggers, hframe⟩
    rw [framesFor_endpoints ht] at hframe
    rcases List.mem_map.mp hframe with ⟨e, he, hpacket⟩
    refine ⟨triggers, htriggers, e, he, ?_⟩
    rw [← hpacket]
    exact frameOf_brings hcfg hsums ht (hcomposed.fitting _ htriggers) he
  · intro triggers htriggers x hx
    have hpushed := batches_pushed hdealt htriggers hx
    rcases hgenuine.pushed x hpushed with ⟨p, event, zSuppressed, hrequest, hhdr⟩
    exact ⟨hpushed, p, event, zSuppressed,
      hsub.subset (List.mem_map_of_mem hrequest), content_requested hhdr⟩
  · intro hsettled hdrained x hx hkept
    rcases drained_sent hdealt hdrained hx hkept with ⟨mrp, hin, hxmrp⟩
    refine ⟨mrp, hin, hxmrp, ?_⟩
    intro e he
    have hframe : frameOf sums Sender.Trigger.hdr mrp.triggers
        (endpointTemplate host cfg e) ∈ s.net.handed.map Handed.packet :=
      (hperm hsettled).mem_iff.mpr
        (List.mem_flatMap.mpr ⟨mrp, hin, List.mem_map_of_mem he⟩)
    rcases List.mem_map.mp hframe with ⟨h, hhanded, hpacket⟩
    refine ⟨h, hhanded, ?_⟩
    rw [hpacket]
    exact frameOf_brings hcfg hsums ht (hcomposed.fitting _ (hmrp mrp hin)) he

end Endpoints

theorem run_genuine_dealt {n : Nat} (host : Host) (sums : ChecksumFunctions)
    (t : Templates) (ring : Fin n -> Bool) (as : List (Action n)) :
    exists bs, (bs.map Action.sender).Sublist as ∧
      Genuine (RequestedIn bs)
        (run (step host sums t ring) (State.initial n) as).sender ∧
      Sender.Dealt (run (step host sums t ring) (State.initial n) as).sender := by
  rcases run_projects host sums t ring as (State.initial n) with
    ⟨bs, hsub, hsender⟩
  change _ = run (Sender.step host sums t) Sender.State.initial bs at hsender
  refine ⟨bs, hsub, ?_⟩
  rw [hsender]
  exact ⟨run_genuine host sums t bs, Sender.run_dealt host sums t bs⟩

/--
With a well-formed configuration and batches that fit, in every interleaving a
frame that the driver was handed brings a batch of requested triggers to one of the
endpoints.  When nothing is on its way, each MRP reached each endpoint once; and
when the sender is drained as well, every trigger that was not flushed reached all.
-/
theorem requests_served {host : Host} {cfg : Config} {sums : ChecksumFunctions}
    {t : Templates} {n : Nat} {ring : Fin n -> Bool}
    (hcfg : cfg.WellFormed host) (hsums : sums.Documented)
    (hinit : Initialize host cfg Templates.initial = .ok t)
    (hring : forall i, ring i = true) {as : List (Action n)}
    (hmeet : StepsMeet (BatchFits t) (step host sums t ring)
      (State.initial n) as) :
    Served host cfg sums as
      (run (step host sums t ring) (State.initial n) as) := by
  rcases run_composed hring hmeet with ⟨hdelivering, hcomposed⟩
  rcases run_genuine_dealt host sums t ring as with ⟨bs, hsub, hgenuine, hdealt⟩
  exact served hcfg hsums (initialize_endpoints hcfg hinit) hdelivering hcomposed
    hdealt hgenuine hsub

def initializedTemplates : Templates :=
  { loopbackTemplates with
    l1UnicastRequestHdr := some (endpointTemplate loopbackHost loopbackConfig
      { mac := #v[0x00, 0x1b, 0x21, 0xc0, 0xff, 0x09], address := 0 }) }

theorem requests_served_one :
    Served loopbackHost loopbackConfig ChecksumFunctions.reference transmitOne
      (run (step loopbackHost ChecksumFunctions.reference initializedTemplates
        (fun _ : Fin 1 => true)) (State.initial 1) transmitOne) :=
  requests_served loopbackConfig_wellFormed
    ChecksumFunctions.reference_documented rfl
    (fun _ => rfl) (by decide)

end Transmission
end L1
end FarmNetworking
