import FarmNetworking.Socket.FramesSent

/-!
# What a back end is for

Abstractly a `NetworkHandler` is a queue in front of a wire: frames are put into
the queue or directly on the wire, and a frame that comes out of the queue is
sent and its buffer deleted.  Nothing is lost and nothing waits.

A back end is not always such a link, because drivers refuse frames and queues
are full.  This module says when it is.
-/

namespace FarmNetworking
namespace Socket
namespace NetworkHandler

open Foundation Runs
open Structs PFringHandler

/-- The bytes of a frame and the length that was announced for it. -/
structure Sent where
  bytes : List UInt8
  length : UInt32

structure Link where
  pending : List DataContainer
  wire : List Sent
  deleted : List Buffer

namespace Link

def initial : Link where
  pending := []
  wire := []
  deleted := []

def transmit (l : Link) (pkt : List UInt8) (pktLen : UInt32) : Link :=
  { l with wire := l.wire ++ [{ bytes := pkt.take pktLen.toNat, length := pktLen }] }

def delete (l : Link) (data : DataContainer) : Link :=
  if data.ownerMayFreeData then { l with deleted := l.deleted ++ [data.data] } else l

def step {n : Nat} (l : Link) : Call n -> Link
  | .asyncSendFrame data => { l with pending := l.pending ++ [data] }
  | .doSendQueuedFrames _ _ =>
      match l.pending with
      | [] => l
      | data :: rest =>
          delete (transmit { l with pending := rest } data.data.bytes
            (UInt32.ofNat data.length)) data
  | .sendFrameConcurrently _ pkt pktLen _ => transmit l pkt pktLen

end Link

def Sent.plain (x : Sent) : List UInt8 :=
  x.bytes

def Sent.padded (x : Sent) : List UInt8 :=
  x.bytes ++ List.replicate (60 - x.length.toNat) 0

structure Serves (form : Sent -> List UInt8) (l : Link) (s : State) : Prop where
  queue : s.asyncSendData = l.pending
  accepted : s.accepted = l.wire.map form
  freed : s.freed = l.deleted

/-!
## When a call does what it should
-/

def PCap.Delivers {n : Nat} (s : State) : Call n -> Prop
  | .asyncSendFrame _ => True
  | .doSendQueuedFrames _ driver => s.asyncSendData = [] ∨ 0 ≤ driver.sendto
  | .sendFrameConcurrently _ _ _ driver => 0 ≤ driver.sendto

def PFring.Delivers {n : Nat} (ring : Fin n -> Bool) (s : State) : Call n -> Prop
  | .asyncSendFrame _ => s.asyncSendData.length < 1000
  | .doSendQueuedFrames i driver =>
      forall data, s.asyncSendData.head? = some data ->
        Taken (ring i) data.data.bytes (UInt32.ofNat data.length)
          driver.pfringSend
  | .sendFrameConcurrently i pkt pktLen driver =>
      Taken (ring i) pkt pktLen driver.pfringSend

/-!
## Sending one frame
-/

section Send

variable {form : Sent -> List UInt8} {l : Link} {s : State}

theorem accept_serves (h : Serves form l s) {pkt packet : List UInt8}
    {pktLen : UInt32}
    (hform : packet = form { bytes := pkt.take pktLen.toNat, length := pktLen }) :
    Serves form (l.transmit pkt pktLen) (accept (count s) packet) := by
  refine ⟨h.queue, ?_, h.freed⟩
  change s.accepted ++ [packet] = (l.wire ++ [_]).map form
  rw [h.accepted, List.map_append, hform]
  rfl

theorem refused_not_serves (h : Serves form l s) {l' : Link} {s' : State}
    {pkt : List UInt8} {pktLen : UInt32}
    (hwire : l'.wire = (l.transmit pkt pktLen).wire)
    (haccepted : s'.accepted = s.accepted) : ¬ Serves form l' s' := by
  intro hserves
  have hlength := congrArg List.length hserves.accepted
  rw [haccepted, h.accepted, hwire] at hlength
  simp [Link.transmit] at hlength

theorem release_serves (h : Serves form l s) (data : DataContainer) :
    Serves form (l.delete data) (release s data) := by
  unfold Link.delete release
  split
  · exact ⟨h.queue, h.accepted, congrArg (· ++ [data.data]) h.freed⟩
  · exact h

theorem count_serves (h : Serves form l s) : Serves form l (count s) :=
  ⟨h.queue, h.accepted, h.freed⟩

theorem delete_wire (l : Link) (data : DataContainer) :
    (l.delete data).wire = l.wire := by
  unfold Link.delete
  split <;> rfl

theorem padFrame_padded (pkt : List UInt8) (pktLen : UInt32) :
    (padFrame pkt pktLen).1 =
      Sent.padded { bytes := pkt.take pktLen.toNat, length := pktLen } := by
  unfold padFrame Sent.padded
  split
  · rfl
  · next hlong =>
      rw [UInt32.lt_iff_toNat_lt, Nat.not_lt] at hlong
      change 60 ≤ pktLen.toNat at hlong
      rw [Nat.sub_eq_zero_of_le hlong, List.replicate_zero, List.append_nil]

theorem pcap_send_serves_iff (h : Serves Sent.plain l s) (pkt : List UInt8)
    (pktLen : UInt32) (sendto : Int) :
    Serves Sent.plain (l.transmit pkt pktLen)
      (PCap.sendFrameConcurrently s pkt pktLen sendto).1 <-> 0 ≤ sendto := by
  unfold PCap.sendFrameConcurrently
  dsimp only
  split
  · next hrc =>
      exact iff_of_false (refused_not_serves h rfl rfl) (by lia)
  · next hrc => exact iff_of_true (accept_serves h rfl) (by lia)

theorem pfring_send_cases (ring : Bool) (s : State) (pkt : List UInt8)
    (pktLen : UInt32) (pfringSend : List Int) :
    (Taken ring pkt pktLen pfringSend ∧ exists rc,
      PFring.sendFrameConcurrently ring s pkt pktLen pfringSend =
        (accept (count s) (padFrame pkt pktLen).1, some rc)) ∨
    (¬ Taken ring pkt pktLen pfringSend ∧
      (PFring.sendFrameConcurrently ring s pkt pktLen pfringSend).1 = count s) := by
  unfold PFring.sendFrameConcurrently Taken
  cases hpad : padFrame pkt pktLen with
  | mk pkt' pktLen' =>
      dsimp only
      cases hfails : sendPacketFails ring pktLen' with
      | true =>
          rw [if_pos rfl]
          refine Or.inr ⟨?_, rfl⟩
          rintro ⟨hpasses, _⟩
          cases hpasses
      | false =>
          rw [if_neg Bool.false_ne_true]
          cases hloop : PFring.sendLoop pfringSend with
          | none =>
              exact Or.inr ⟨fun htaken =>
                sendLoop_eq_none.mp hloop htaken.right, rfl⟩
          | some rc =>
              refine Or.inl ⟨⟨rfl, ?_⟩, rc, rfl⟩
              by_contra hnone
              rw [sendLoop_eq_none.mpr hnone] at hloop
              cases hloop

theorem pfring_send_serves_iff (h : Serves Sent.padded l s) (ring : Bool)
    (pkt : List UInt8) (pktLen : UInt32) (pfringSend : List Int) :
    Serves Sent.padded (l.transmit pkt pktLen)
      (PFring.sendFrameConcurrently ring s pkt pktLen pfringSend).1 <->
        Taken ring pkt pktLen pfringSend := by
  rcases pfring_send_cases ring s pkt pktLen pfringSend with
    ⟨htaken, rc, hcall⟩ | ⟨hrefused, hcall⟩
  · rw [hcall]
    exact iff_of_true (accept_serves h (padFrame_padded pkt pktLen)) htaken
  · rw [hcall]
    exact iff_of_false (refused_not_serves h rfl rfl) hrefused

end Send

/-!
## One call
-/

section Steps

variable {n : Nat} {l : Link} {s : State}

theorem pcap_step_serves_iff (h : Serves Sent.plain l s) (call : Call n) :
    Serves Sent.plain (l.step call) (PCap.step s call) <-> PCap.Delivers s call := by
  cases call with
  | asyncSendFrame data =>
      exact iff_of_true
        ⟨congrArg (· ++ [data]) h.queue, h.accepted, h.freed⟩ trivial
  | sendFrameConcurrently i pkt pktLen driver =>
      exact pcap_send_serves_iff h pkt pktLen driver.sendto
  | doSendQueuedFrames i driver =>
      unfold Link.step PCap.step PCap.doSendQueuedFrames PCap.Delivers
      cases hqueue : s.asyncSendData with
      | nil =>
          rw [← h.queue, hqueue]
          exact iff_of_true h (Or.inl rfl)
      | cons data rest =>
          rw [← h.queue, hqueue]
          dsimp only
          have hrest : Serves Sent.plain { l with pending := rest }
              { s with asyncSendData := rest } :=
            ⟨rfl, h.accepted, h.freed⟩
          have hsend := pcap_send_serves_iff hrest data.data.bytes
            (UInt32.ofNat data.length) driver.sendto
          by_cases hrc : 0 ≤ driver.sendto
          · exact iff_of_true
              (count_serves (release_serves (hsend.mpr hrc) data)) (Or.inr hrc)
          · refine iff_of_false (refused_not_serves hrest (delete_wire _ data) ?_)
              (by simp [hrc])
            change (release _ data).accepted = s.accepted
            rw [(release_fields _ data).right, PCap.sendFrameConcurrently]
            dsimp only
            rw [if_pos (by lia)]
            rfl

theorem pfring_step_serves_iff (ring : Fin n -> Bool)
    (h : Serves Sent.padded l s) (call : Call n) :
    Serves Sent.padded (l.step call) (PFring.step ring s call) <->
      PFring.Delivers ring s call := by
  cases call with
  | asyncSendFrame data =>
      unfold Link.step PFring.step PFring.asyncSendFrame PFring.Delivers
      dsimp only
      split
      · next hroom =>
          exact iff_of_true
            ⟨congrArg (· ++ [data]) h.queue, h.accepted, h.freed⟩ hroom
      · next hfull =>
          refine iff_of_false ?_ hfull
          intro hserves
          have hlength := congrArg List.length hserves.queue
          rw [h.queue] at hlength
          simp at hlength
  | sendFrameConcurrently i pkt pktLen driver =>
      exact pfring_send_serves_iff h (ring i) pkt pktLen driver.pfringSend
  | doSendQueuedFrames i driver =>
      unfold Link.step PFring.step PFring.doSendQueuedFrames PFring.Delivers
      cases hqueue : s.asyncSendData with
      | nil =>
          rw [← h.queue, hqueue]
          exact iff_of_true h nofun
      | cons data rest =>
          rw [← h.queue, hqueue]
          dsimp only
          have hrest : Serves Sent.padded { l with pending := rest }
              { s with asyncSendData := rest } :=
            ⟨rfl, h.accepted, h.freed⟩
          have hhead : forall other, (data :: rest).head? = some other ->
              other = data := fun other hother => (Option.some.inj hother).symm
          rcases pfring_send_cases (ring i) { s with asyncSendData := rest }
            data.data.bytes (UInt32.ofNat data.length) driver.pfringSend with
            ⟨htaken, rc, hcall⟩ | ⟨hrefused, hcall⟩
          · rw [hcall]
            refine iff_of_true (release_serves (accept_serves hrest
              (padFrame_padded _ _)) data) ?_
            intro other hother
            rw [hhead other hother]
            exact htaken
          · refine iff_of_false (refused_not_serves hrest (delete_wire _ data) ?_)
              (fun hall => hrefused (hall data rfl))
            split
            · next t hnone =>
                rw [hnone] at hcall
                rw [show t = count _ from hcall]
                rfl
            · next t bytes hsome =>
                rw [(release_fields t data).right]
                rw [hsome] at hcall
                rw [show t = count _ from hcall]
                rfl

end Steps

/-!
## Runs
-/

structure Linked where
  link : Link
  backEnd : State

def Linked.initial : Linked where
  link := Link.initial
  backEnd := State.initial

def Linked.step {n : Nat} (backEnd : State -> Call n -> State) (x : Linked)
    (call : Call n) : Linked where
  link := x.link.step call
  backEnd := backEnd x.backEnd call

theorem run_linked {n : Nat} (backEnd : State -> Call n -> State)
    (calls : List (Call n)) (x : Linked) :
    run (Linked.step backEnd) x calls =
      { link := run Link.step x.link calls
        backEnd := run backEnd x.backEnd calls } := by
  induction calls generalizing x with
  | nil => rfl
  | cons call rest ih => exact ih (Linked.step backEnd x call)

structure SameWire (pcap pfring : State) : Prop where
  queue : pcap.asyncSendData = pfring.asyncSendData
  freed : pcap.freed = pfring.freed
  wire : exists sent : List Sent, pcap.accepted = sent.map Sent.plain ∧
    pfring.accepted = sent.map Sent.padded

theorem initial_serves (form : Sent -> List UInt8) :
    Serves form Link.initial State.initial :=
  ⟨rfl, rfl, rfl⟩

theorem serves_along_iff {n : Nat} {form : Sent -> List UInt8}
    {backEnd : State -> Call n -> State} {Delivers : State -> Call n -> Prop}
    (hstep : forall l s call, Serves form l s ->
      (Serves form (l.step call) (backEnd s call) <-> Delivers s call))
    (calls : List (Call n)) :
    Along (fun x => Serves form x.link x.backEnd) (Linked.step backEnd)
        Linked.initial calls <->
      StepsMeet (fun x => Delivers x.backEnd) (Linked.step backEnd)
        Linked.initial calls := by
  have hinitial : Serves form Linked.initial.link Linked.initial.backEnd :=
    initial_serves form
  exact along_iff_stepsMeet (I := fun _ : Linked => True)
    (P := fun x : Linked => Serves form x.link x.backEnd) (fun _ _ _ => trivial)
    (fun x call _ h => hstep x.link x.backEnd call h) trivial hinitial calls

/--
In every sequence of calls a back end stays the link exactly if all its calls
deliver.  If those of both do, the two back ends put the same frames on the wire.
-/
theorem link_refined_iff {n : Nat} (ring : Fin n -> Bool)
    (calls : List (Call n)) :
    (Along (fun x => Serves Sent.plain x.link x.backEnd) (Linked.step PCap.step)
        Linked.initial calls <->
      StepsMeet (fun x => PCap.Delivers x.backEnd) (Linked.step PCap.step)
        Linked.initial calls) ∧
    (Along (fun x => Serves Sent.padded x.link x.backEnd)
        (Linked.step (PFring.step ring)) Linked.initial calls <->
      StepsMeet (fun x => PFring.Delivers ring x.backEnd)
        (Linked.step (PFring.step ring)) Linked.initial calls) ∧
    (StepsMeet (fun x => PCap.Delivers x.backEnd) (Linked.step PCap.step)
        Linked.initial calls ->
      StepsMeet (fun x => PFring.Delivers ring x.backEnd)
        (Linked.step (PFring.step ring)) Linked.initial calls ->
      SameWire (run PCap.step State.initial calls)
        (run (PFring.step ring) State.initial calls)) := by
  have hpcap := serves_along_iff
    (fun l s (call : Call n) (h : Serves Sent.plain l s) =>
      pcap_step_serves_iff h call) calls
  have hpfring := serves_along_iff
    (fun l s (call : Call n) (h : Serves Sent.padded l s) =>
      pfring_step_serves_iff ring h call) calls
  refine ⟨hpcap, hpfring, ?_⟩
  intro hplain hpadded
  have hleft := along_run (hpcap.mpr hplain)
  have hright := along_run (hpfring.mpr hpadded)
  rw [run_linked] at hleft hright
  exact ⟨hleft.queue.trans hright.queue.symm, hleft.freed.trans hright.freed.symm,
    _, hleft.accepted, hright.accepted⟩

end NetworkHandler
end Socket
end FarmNetworking
