import FarmNetworking.Socket.ARP
import FarmNetworking.Socket.NetworkHandler

/-!
# The send queue over raw sockets

Three kinds of threads share the queue of `socket/PCapHandler.cpp`: the thread of
the handler with its ARP requests, callers that enqueue frames of their own, and
packet handlers that send what is in the queue.  All of them are cut where they
touch the queue and where they allocate or delete a buffer.

Buffers are numbered as they are allocated, so that a number stands for one
allocation even if the memory is used again.
-/

namespace FarmNetworking
namespace Socket
namespace PCapHandler

open Foundation Runs
open Structs EthernetUtils NetworkHandler

inductive Phase where
  | idle
  /-- With a popped frame, at the call of `SendFrameConcurrently`. -/
  | popped (data : DataContainer)
  /-- Behind the call, with its result. -/
  | sent (data : DataContainer) (bytes : Int)

/--
The variables of the thread and of the callers hold a frame from the allocation
of its buffer to the call of `AsyncSendFrame`.  The last two fields are history
that the code does not store: the buffers that were allocated, and those whose
frame a call has sent and not deleted.
-/
structure State (m n : Nat) where
  net : NetworkHandler.State
  arp : Option DataContainer
  callers : Fin m -> Option DataContainer
  handlers : Fin n -> Phase
  allocated : List Buffer
  abandoned : List Buffer

def State.initial (m n : Nat) : State m n where
  net := NetworkHandler.State.initial
  arp := none
  callers := fun _ => none
  handlers := fun _ => .idle
  allocated := []
  abandoned := []

/-- A label has what an allocated block contains and what the driver returns. -/
inductive Action (m n : Nat) where
  | thread (content : Vector UInt8 64)
  | asyncSendFrame (j : Fin m) (frame : List UInt8) (length : Nat)
  | doSendQueuedFrames (i : Fin n) (sendto : Int)

section System

variable {m n : Nat} (myMac : MacAddress) (myIP : UInt32)

def request (block : FreshBlock) : DataContainer :=
  { generateGratuitousARPv4 block myMac myIP with ownerMayFreeData := false }

/--
One turn of the loop takes two steps.  The variable lives on while the thread
sleeps, but the next turn gives it a new frame.
-/
def thread (s : State m n) (content : Vector UInt8 64) : State m n :=
  match s.arp with
  | none =>
      let arp := request myMac myIP
        { address := s.allocated.length, content := content }
      { s with
        arp := some arp
        allocated := s.allocated ++ [arp.data] }
  | some arp =>
      { s with net := PCap.asyncSendFrame s.net arp, arp := none }

/-- A caller allocates a frame, and gives it away in the next step. -/
def asyncSendFrame (s : State m n) (j : Fin m) (frame : List UInt8)
    (length : Nat) : State m n :=
  match s.callers j with
  | none =>
      let data : Buffer := { address := s.allocated.length, bytes := frame }
      { s with
        callers := Function.update s.callers j
          (some { data := data, length := length, ownerMayFreeData := true })
        allocated := s.allocated ++ [data] }
  | some data =>
      { s with
        net := PCap.asyncSendFrame s.net data
        callers := Function.update s.callers j none }

def doSendQueuedFrames (s : State m n) (i : Fin n) (sendto : Int) : State m n :=
  match s.handlers i with
  | .idle =>
      match s.net.asyncSendData with
      | [] => s
      | data :: rest =>
          { s with
            net := { s.net with asyncSendData := rest }
            handlers := Function.update s.handlers i (.popped data) }
  | .popped data =>
      let (net, bytes) := PCap.sendFrameConcurrently s.net data.data.bytes
        (UInt32.ofNat data.length) sendto
      { s with
        net := net
        handlers := Function.update s.handlers i (.sent data bytes) }
  | .sent data _ =>
      { s with
        net := count (release s.net data)
        handlers := Function.update s.handlers i .idle
        abandoned := if data.ownerMayFreeData then s.abandoned
          else s.abandoned ++ [data.data] }

def step (s : State m n) : Action m n -> State m n
  | .thread content => thread myMac myIP s content
  | .asyncSendFrame j frame length => asyncSendFrame s j frame length
  | .doSendQueuedFrames i sendto => doSendQueuedFrames s i sendto

/-!
## A call and its pieces
-/

theorem sendFrameConcurrently_keeps (s : NetworkHandler.State)
    (pkt : List UInt8) (pktLen : UInt32) (sendto : Int) :
    (PCap.sendFrameConcurrently s pkt pktLen sendto).1.asyncSendData =
        s.asyncSendData ∧
      (PCap.sendFrameConcurrently s pkt pktLen sendto).1.freed = s.freed := by
  rw [PCap.sendFrameConcurrently]
  dsimp only
  split <;> exact ⟨rfl, rfl⟩

theorem release_asyncSendData (s : NetworkHandler.State)
    (data : DataContainer) :
    (release s data).asyncSendData = s.asyncSendData := by
  unfold release
  split <;> rfl

theorem call_asyncSendData {s : NetworkHandler.State} {data : DataContainer}
    {rest : List DataContainer} (hqueue : s.asyncSendData = data :: rest)
    (sendto : Int) :
    (PCap.doSendQueuedFrames s sendto).1.asyncSendData = rest := by
  have hkeeps := sendFrameConcurrently_keeps { s with asyncSendData := rest }
    data.data.bytes (UInt32.ofNat data.length) sendto
  rw [PCap.doSendQueuedFrames]
  simp only [hqueue]
  exact (release_asyncSendData _ data).trans hkeeps.left

theorem doSendQueuedFrames_empty {s : State m n} {i : Fin n}
    (hidle : s.handlers i = .idle) (hqueue : s.net.asyncSendData = [])
    (sendto : Int) :
    PCap.doSendQueuedFrames s.net sendto =
      ((doSendQueuedFrames s i sendto).net, 0) := by
  have hstep : doSendQueuedFrames s i sendto = s := by
    simp only [doSendQueuedFrames, hidle, hqueue]
  rw [hstep, PCap.doSendQueuedFrames]
  simp only [hqueue]

section Found

variable {s : State m n} {i : Fin n} {data : DataContainer}
  {rest : List DataContainer}

theorem doSendQueuedFrames_bytes (hidle : s.handlers i = .idle)
    (hqueue : s.net.asyncSendData = data :: rest) (sendto : Int) :
    (doSendQueuedFrames (doSendQueuedFrames s i 0) i sendto).handlers i =
      .sent data (PCap.doSendQueuedFrames s.net sendto).2 := by
  simp [doSendQueuedFrames, PCap.doSendQueuedFrames, hidle, hqueue]

/-- Three steps of a handler that finds a frame do what the whole call does. -/
theorem run_doSendQueuedFrames (hidle : s.handlers i = .idle)
    (hqueue : s.net.asyncSendData = data :: rest) (sendto : Int) :
    run (step myMac myIP) s
        ([0, sendto, 0].map (Action.doSendQueuedFrames i)) =
      { s with
        net := (PCap.doSendQueuedFrames s.net sendto).1
        abandoned := if data.ownerMayFreeData then s.abandoned
          else s.abandoned ++ [data.data] } := by
  have hback : forall phase, Function.update
      (Function.update s.handlers i phase) i .idle = s.handlers := by
    intro phase
    rw [Function.update_idem, ← hidle, Function.update_eq_self]
  simp [step, doSendQueuedFrames, PCap.doSendQueuedFrames, hidle, hqueue, hback]

end Found

end System

end PCapHandler
end Socket
end FarmNetworking
