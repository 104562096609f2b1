import FarmNetworking.Socket.PFringHandler

/-!
# Two implementations of one interface

`NetworkHandler` is implemented over PF_RING and over raw sockets.  A build has
one of the two.  Here both are modelled call by call: a call runs to its end
before the next one begins, and what the driver answers is part of its label.

The step model of the PF_RING back end cuts its calls into smaller pieces.  A
call that returns is the same as the pieces of one handler, taken together.
-/

namespace FarmNetworking
namespace Socket
namespace NetworkHandler

open Foundation Runs
open Structs PFringHandler

/-- The last two fields are history that the code does not store. -/
structure State where
  asyncSendData : List DataContainer
  framesSent : UInt64
  accepted : List (List UInt8)
  freed : List Buffer

def State.initial : State where
  asyncSendData := []
  framesSent := 0
  accepted := []
  freed := []

def getFramesSent (s : State) : UInt64 :=
  s.framesSent

/-- `delete[] data.data`, where the owner permits it. -/
def release (s : State) (data : DataContainer) : State :=
  if data.ownerMayFreeData then { s with freed := s.freed ++ [data.data] } else s

/-- The counter goes up before the frame is offered. -/
def count (s : State) : State :=
  { s with framesSent := s.framesSent + 1 }

def accept (s : State) (packet : List UInt8) : State :=
  { s with accepted := s.accepted ++ [packet] }

/-!
## Raw sockets
-/

namespace PCap

/-- The queue has no capacity here. -/
def asyncSendFrame (s : State) (data : DataContainer) : State :=
  { s with asyncSendData := s.asyncSendData ++ [data] }

/-- `sendto` reports a failure by a negative number, which is only printed. -/
def sendFrameConcurrently (s : State) (pkt : List UInt8) (pktLen : UInt32)
    (sendto : Int) : State × Int :=
  let s := count s
  let s := if sendto < 0 then s else accept s (pkt.take pktLen.toNat)
  (s, pktLen.toInt32.toInt)

def doSendQueuedFrames (s : State) (sendto : Int) : State × Int :=
  match s.asyncSendData with
  | [] => (s, 0)
  | data :: rest =>
      let (s, bytes) := sendFrameConcurrently { s with asyncSendData := rest }
        data.data.bytes (UInt32.ofNat data.length) sendto
      (count (release s data), bytes)

end PCap

/-!
## PF_RING
-/

namespace PFring

/-- A push into a full queue waits. -/
def asyncSendFrame (s : State) (data : DataContainer) : State :=
  if s.asyncSendData.length < 1000 then
    { s with asyncSendData := s.asyncSendData ++ [data] }
  else s

/-- The loop of `send_packet`, which the last answer may leave unfinished. -/
def sendLoop : List Int -> Option Int
  | [] => none
  | rc :: rest => if rc < 0 then sendLoop rest else some rc

/-- There is no result while the loop of `send_packet` goes on. -/
def sendFrameConcurrently (ring : Bool) (s : State) (pkt : List UInt8)
    (pktLen : UInt32) (pfringSend : List Int) : State × Option Int :=
  let s := count s
  let (pkt, pktLen) := padFrame pkt pktLen
  if sendPacketFails ring pktLen then (s, some (-1))
  else
    match sendLoop pfringSend with
    | none => (s, none)
    | some rc => (accept s pkt, some rc)

def doSendQueuedFrames (ring : Bool) (s : State) (pfringSend : List Int) :
    State × Option Int :=
  match s.asyncSendData with
  | [] => (s, some 0)
  | data :: rest =>
      match sendFrameConcurrently ring { s with asyncSendData := rest }
        data.data.bytes (UInt32.ofNat data.length) pfringSend with
      | (s, none) => (s, none)
      | (s, some bytes) => (release s data, some bytes)

end PFring

/-!
## A call and its pieces
-/

section Pieces

variable {n : Nat}

def project (s : PFringHandler.State n) : State where
  asyncSendData := s.asyncSendData
  framesSent := s.framesSent
  accepted := s.handed.map Handed.packet
  freed := s.freed

def handlerRun (ring : Fin n -> Bool) (i : Fin n) :
    PFringHandler.State n -> List Int -> PFringHandler.State n :=
  run (fun s rc => PFringHandler.doSendQueuedFrames ring s i rc)

theorem handlerRun_cons (ring : Fin n -> Bool) (i : Fin n)
    (s : PFringHandler.State n) (rc : Int) (rest : List Int) :
    handlerRun ring i s (rc :: rest) =
      handlerRun ring i (PFringHandler.doSendQueuedFrames ring s i rc) rest :=
  rfl

theorem handlerRun_append (ring : Fin n -> Bool) (i : Fin n)
    (s : PFringHandler.State n) (rcs more : List Int) :
    handlerRun ring i s (rcs ++ more) =
      handlerRun ring i (handlerRun ring i s rcs) more :=
  run_append s rcs more

theorem handlerRun_sending (ring : Fin n -> Bool) {i : Fin n}
    {s : PFringHandler.State n} {data : DataContainer} {pkt : List UInt8}
    (hphase : s.handlers i = .sending data pkt) {rcs : List Int} {rc : Int}
    (h : PFring.sendLoop rcs = some rc) :
    exists tried rest, rcs = tried ++ rest ∧ handlerRun ring i s tried =
      { s with
        handlers := Function.update s.handlers i (.sent data rc)
        handed := s.handed ++ [{ data := data, packet := pkt }] } := by
  induction rcs with
  | nil => cases h
  | cons first rest ih =>
      unfold PFring.sendLoop at h
      split at h
      · next hfirst =>
          rcases ih h with ⟨tried, untried, hrest, hrun⟩
          refine ⟨first :: tried, untried, by rw [hrest]; rfl, ?_⟩
          have hretry : PFringHandler.doSendQueuedFrames ring s i first = s := by
            simp [PFringHandler.doSendQueuedFrames, hphase, hfirst]
          rw [handlerRun_cons, hretry]
          exact hrun
      · next hfirst =>
          have heq : first = rc := Option.some.inj h
          subst heq
          refine ⟨[first], rest, rfl, ?_⟩
          simp [handlerRun, PFringHandler.doSendQueuedFrames, hphase, hfirst]

theorem handlerRun_sent (ring : Fin n -> Bool) {i : Fin n}
    {s : PFringHandler.State n} {data : DataContainer} {bytes : Int}
    (hphase : s.handlers i = .sent data bytes) :
    (handlerRun ring i s [0]).handlers i = .idle ∧
      project (handlerRun ring i s [0]) = release (project s) data ∧
      (handlerRun ring i s [0]).returned = s.returned ++ [bytes] := by
  have hrun : handlerRun ring i s [0] =
      { s with
        handlers := Function.update s.handlers i .idle
        freed := if data.ownerMayFreeData then s.freed ++ [data.data]
          else s.freed
        returned := s.returned ++ [bytes] } := by
    simp [handlerRun, PFringHandler.doSendQueuedFrames, hphase]
  rw [hrun]
  refine ⟨Function.update_self .., ?_, rfl⟩
  unfold release project
  split <;> rfl

theorem handlerRun_popped (ring : Fin n -> Bool) {i : Fin n}
    {s : PFringHandler.State n} (hidle : s.handlers i = .idle)
    {data : DataContainer} {rest : List DataContainer}
    (hqueue : s.asyncSendData = data :: rest) {pkt : List UInt8}
    {pktLen : UInt32}
    (hpad : padFrame data.data.bytes (UInt32.ofNat data.length) =
      (pkt, pktLen)) :
    exists u, handlerRun ring i s [0, 0] = u ∧
      project u = count { project s with asyncSendData := rest } ∧
      u.returned = s.returned ∧
      u.handlers i =
        if sendPacketFails (ring i) pktLen then .sent data (-1)
        else .sending data pkt := by
  refine ⟨_, rfl, ?_⟩
  cases hfails : sendPacketFails (ring i) pktLen <;>
    simp [handlerRun, PFringHandler.doSendQueuedFrames, hidle, hqueue, hpad,
      hfails, project, count]

/--
A call that returns is what one handler does in some of its steps, with the same
answers of the driver.
-/
theorem doSendQueuedFrames_pieces (ring : Fin n -> Bool) {i : Fin n}
    {s : PFringHandler.State n} (hidle : s.handlers i = .idle)
    {rcs : List Int} {t : State} {bytes : Int}
    (h : PFring.doSendQueuedFrames (ring i) (project s) rcs =
      (t, some bytes)) :
    exists pieces, (handlerRun ring i s pieces).handlers i = .idle ∧
      project (handlerRun ring i s pieces) = t ∧
      (handlerRun ring i s pieces).returned = s.returned ++ [bytes] := by
  cases hqueue : s.asyncSendData with
  | nil =>
      have hcall : (project s, some 0) = (t, some bytes) := by
        rw [← h, PFring.doSendQueuedFrames]
        simp only [project, hqueue]
      cases hcall
      refine ⟨[0], ?_⟩
      have hrun : handlerRun ring i s [0] =
          { s with returned := s.returned ++ [0] } := by
        simp [handlerRun, PFringHandler.doSendQueuedFrames, hidle, hqueue]
      rw [hrun]
      exact ⟨hidle, rfl, rfl⟩
  | cons data rest =>
      cases hpad : padFrame data.data.bytes (UInt32.ofNat data.length) with
      | mk pkt pktLen =>
          rcases handlerRun_popped ring hidle hqueue hpad with
            ⟨u, hu, hproject, hreturned, hphase⟩
          have hsend : (project s).asyncSendData = data :: rest := hqueue
          rw [PFring.doSendQueuedFrames, hsend] at h
          simp only [PFring.sendFrameConcurrently, hpad, ← hproject] at h
          cases hfails : sendPacketFails (ring i) pktLen with
          | true =>
              rw [hfails] at hphase h
              rcases handlerRun_sent ring hphase with ⟨hback, hsent, hbytes⟩
              cases h
              refine ⟨[0, 0] ++ [0], ?_⟩
              rw [handlerRun_append, hu]
              exact ⟨hback, hsent, by rw [hbytes, hreturned]⟩
          | false =>
              rw [hfails] at hphase h
              cases hloop : PFring.sendLoop rcs with
              | none =>
                  simp only [hloop] at h
                  cases h
              | some rc =>
                  simp only [hloop] at h
                  cases h
                  rcases handlerRun_sending ring hphase hloop with
                    ⟨tried, untried, _, hrun⟩
                  have hlast : (handlerRun ring i u tried).handlers i =
                      .sent data bytes := by
                    rw [hrun]
                    exact Function.update_self ..
                  rcases handlerRun_sent ring hlast with ⟨hback, hsent, hbytes⟩
                  refine ⟨[0, 0] ++ (tried ++ [0]), ?_⟩
                  rw [handlerRun_append, hu, handlerRun_append]
                  refine ⟨hback, ?_, ?_⟩
                  · rw [hsent, hrun]
                    simp [project, accept]
                  · rw [hbytes, hrun, ← hreturned]

end Pieces

end NetworkHandler
end Socket
end FarmNetworking
