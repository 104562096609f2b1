import FarmNetworking.Foundation.Conveyor
import FarmNetworking.Structs.DataContainer

/-!
# The PF_RING back end

`AsyncSendFrame` puts frames into a bounded queue, and the packet handler
threads take them out again with `DoSendQueuedFrames`.  A handler is cut where
it touches the queue and where it calls the driver.  The driver is free to
refuse a packet any number of times; its result is part of the label.
-/

namespace FarmNetworking
namespace Socket
namespace PFringHandler

open Foundation Runs
open Structs

/-!
## Single calls
-/

/-- The two early returns of `PFring::send_packet`. -/
def sendPacketFails (ring : Bool) (pktLen : UInt32) : Bool :=
  !ring || decide (pktLen > 1500)

/-- The packet and the length that `SendFrameConcurrently` passes on. -/
def padFrame (pkt : List UInt8) (pktLen : UInt32) : List UInt8 × UInt32 :=
  if pktLen < 60 then
    (pkt.take pktLen.toNat ++ List.replicate (60 - pktLen.toNat) 0, 60)
  else (pkt.take pktLen.toNat, pktLen)

theorem padFrame_whole {pkt : List UInt8} {length : Nat}
    (hlow : 60 ≤ length) (hhigh : length ≤ 1500) (hlength : pkt.length = length) :
    (padFrame pkt (UInt32.ofNat length)).1 = pkt ∧
      sendPacketFails true (padFrame pkt (UInt32.ofNat length)).2 = false := by
  have hnat : (UInt32.ofNat length).toNat = length := by
    rw [UInt32.toNat_ofNat']
    exact Nat.mod_eq_of_lt (by lia)
  have hlong : ¬ UInt32.ofNat length < 60 := by
    rw [UInt32.lt_iff_toNat_lt, hnat]
    change ¬ length < 60
    lia
  have hshort : ¬ UInt32.ofNat length > 1500 := by
    rw [gt_iff_lt, UInt32.lt_iff_toNat_lt, hnat]
    change ¬ 1500 < length
    lia
  rw [padFrame, if_neg hlong, hnat]
  constructor
  · exact List.take_of_length_le (Nat.le_of_eq hlength)
  · simp [sendPacketFails, hshort]

theorem sendPacketFails_long (ring : Bool) (pkt : List UInt8) {length : Nat}
    (hlow : 1500 < length) (hhigh : length < 4294967296) :
    sendPacketFails ring (padFrame pkt (UInt32.ofNat length)).2 = true := by
  have hnat : (UInt32.ofNat length).toNat = length := by
    rw [UInt32.toNat_ofNat']
    exact Nat.mod_eq_of_lt hhigh
  have hlong : ¬ UInt32.ofNat length < 60 := by
    rw [UInt32.lt_iff_toNat_lt, hnat]
    change ¬ length < 60
    lia
  have hfails : UInt32.ofNat length > 1500 := by
    rw [gt_iff_lt, UInt32.lt_iff_toNat_lt, hnat]
    exact hlow
  rw [padFrame, if_neg hlong, sendPacketFails, decide_eq_true hfails,
    Bool.or_true]

inductive Phase where
  | idle
  /-- With a popped frame, at the call of `SendFrameConcurrently`. -/
  | popped (data : DataContainer)
  /-- In the loop of `send_packet`. -/
  | sending (data : DataContainer) (pkt : List UInt8)
  /-- Behind the call, with its result. -/
  | sent (data : DataContainer) (bytes : Int)

structure Handed where
  data : DataContainer
  packet : List UInt8

/-- The arguments of a call of `send_packet`, with the frame they come from. -/
structure Offer where
  data : DataContainer
  packet : List UInt8
  pktLen : UInt32

/-- The last six fields are history that the code does not store. -/
structure State (n : Nat) where
  asyncSendData : List DataContainer
  handlers : Fin n -> Phase
  framesSent : UInt64
  enqueued : List DataContainer
  offered : List Offer
  handed : List Handed
  rejected : List DataContainer
  freed : List Buffer
  returned : List Int

def State.initial (n : Nat) : State n where
  asyncSendData := []
  handlers := fun _ => .idle
  framesSent := 0
  enqueued := []
  offered := []
  handed := []
  rejected := []
  freed := []
  returned := []

section System

variable {n : Nat}

/-- The capacity is set in the constructor.  A push into a full queue blocks. -/
def asyncSendFrame (s : State n) (data : DataContainer) : State n :=
  if s.asyncSendData.length < 1000 then
    { s with
      asyncSendData := s.asyncSendData ++ [data]
      enqueued := s.enqueued ++ [data] }
  else s

/-- One step of a handler.  The number is what the driver returns if called. -/
def doSendQueuedFrames (ring : Fin n -> Bool) (s : State n) (i : Fin n)
    (rc : Int) : State n :=
  match s.handlers i with
  | .idle =>
      match s.asyncSendData with
      | [] => { s with returned := s.returned ++ [0] }
      | data :: rest =>
          { s with
            asyncSendData := rest
            handlers := Function.update s.handlers i (.popped data) }
  | .popped data =>
      let (pkt, pktLen) := padFrame data.data.bytes (UInt32.ofNat data.length)
      let offer : Offer := { data := data, packet := pkt, pktLen := pktLen }
      if sendPacketFails (ring i) pktLen then
        { s with
          handlers := Function.update s.handlers i (.sent data (-1))
          framesSent := s.framesSent + 1
          offered := s.offered ++ [offer]
          rejected := s.rejected ++ [data] }
      else
        { s with
          handlers := Function.update s.handlers i (.sending data pkt)
          framesSent := s.framesSent + 1
          offered := s.offered ++ [offer] }
  | .sending data pkt =>
      if rc < 0 then s
      else
        { s with
          handlers := Function.update s.handlers i (.sent data rc)
          handed := s.handed ++ [{ data := data, packet := pkt }] }
  | .sent data bytes =>
      { s with
        handlers := Function.update s.handlers i .idle
        freed := if data.ownerMayFreeData then s.freed ++ [data.data]
          else s.freed
        returned := s.returned ++ [bytes] }

/-!
## What a handler can do
-/

def Offer.ofFrame (data : DataContainer) : Offer where
  data := data
  packet := (padFrame data.data.bytes (UInt32.ofNat data.length)).1
  pktLen := (padFrame data.data.bytes (UInt32.ofNat data.length)).2

inductive HandlerMove (ring : Fin n -> Bool) (s : State n) (i : Fin n) :
    State n -> Prop where
  | empty : s.handlers i = .idle -> s.asyncSendData = [] ->
      HandlerMove ring s i { s with returned := s.returned ++ [0] }
  | pop (data : DataContainer) (rest : List DataContainer) :
      s.handlers i = .idle -> s.asyncSendData = data :: rest ->
      HandlerMove ring s i { s with
        asyncSendData := rest
        handlers := Function.update s.handlers i (.popped data) }
  | reject (data : DataContainer) : s.handlers i = .popped data ->
      sendPacketFails (ring i)
        (padFrame data.data.bytes (UInt32.ofNat data.length)).2 = true ->
      HandlerMove ring s i { s with
        handlers := Function.update s.handlers i (.sent data (-1))
        framesSent := s.framesSent + 1
        offered := s.offered ++ [Offer.ofFrame data]
        rejected := s.rejected ++ [data] }
  | start (data : DataContainer) : s.handlers i = .popped data ->
      sendPacketFails (ring i)
        (padFrame data.data.bytes (UInt32.ofNat data.length)).2 = false ->
      HandlerMove ring s i { s with
        handlers := Function.update s.handlers i (.sending data
          (padFrame data.data.bytes (UInt32.ofNat data.length)).1)
        framesSent := s.framesSent + 1
        offered := s.offered ++ [Offer.ofFrame data] }
  | retry (data : DataContainer) (pkt : List UInt8) :
      s.handlers i = .sending data pkt -> HandlerMove ring s i s
  | accept (data : DataContainer) (pkt : List UInt8) (rc : Int) :
      s.handlers i = .sending data pkt -> 0 ≤ rc ->
      HandlerMove ring s i { s with
        handlers := Function.update s.handlers i (.sent data rc)
        handed := s.handed ++ [{ data := data, packet := pkt }] }
  | release (data : DataContainer) (bytes : Int) :
      s.handlers i = .sent data bytes ->
      HandlerMove ring s i { s with
        handlers := Function.update s.handlers i .idle
        freed := if data.ownerMayFreeData then s.freed ++ [data.data]
          else s.freed
        returned := s.returned ++ [bytes] }

theorem handler_move (ring : Fin n -> Bool) (s : State n) (i : Fin n)
    (rc : Int) : HandlerMove ring s i (doSendQueuedFrames ring s i rc) := by
  unfold doSendQueuedFrames
  cases hphase : s.handlers i with
  | idle =>
      dsimp only
      split
      · next h => exact HandlerMove.empty hphase h
      · next data rest h => exact HandlerMove.pop data rest hphase h
  | popped data =>
      dsimp only
      split
      · next h => exact HandlerMove.reject data hphase h
      · next h =>
          exact HandlerMove.start data hphase (Bool.eq_false_iff.mpr h)
  | sending data pkt =>
      dsimp only
      split
      · exact HandlerMove.retry data pkt hphase
      · next h => exact HandlerMove.accept data pkt rc hphase (by lia)
  | sent data bytes => exact HandlerMove.release data bytes hphase

/-!
## The queue as a conveyor
-/

def Phase.holding : Phase -> Multiset DataContainer
  | .popped data => {data}
  | .sending data _ => {data}
  | .idle => 0
  | .sent _ _ => 0

inductive Exit where
  | handed
  | rejected
  deriving DecidableEq

instance : Fintype Exit where
  elems := {.handed, .rejected}
  complete := by
    intro e
    cases e <;> simp

def view (s : State n) : Conveyor DataContainer Exit where
  entered := s.enqueued
  waiting := s.asyncSendData
  held := ∑ i, (s.handlers i).holding
  left
    | .handed => s.handed.map Handed.data
    | .rejected => s.rejected

theorem asyncSendFrame_view (s : State n) (data : DataContainer) :
    Conveyor.Steps (view s) (view (asyncSendFrame s data)) := by
  unfold asyncSendFrame
  split
  · refine Relation.ReflTransGen.single
      (Conveyor.Step.enter {data} ?_ ?_ rfl rfl)
    · exact (Multiset.coe_add _ _).symm
    · exact (Multiset.coe_add _ _).symm
  · exact Relation.ReflTransGen.refl

theorem handler_view {ring : Fin n -> Bool} {s s' : State n} {i : Fin n}
    (hmove : HandlerMove ring s i s') : Conveyor.Steps (view s) (view s') := by
  cases hmove with
  | empty hphase hqueue => exact Relation.ReflTransGen.refl
  | pop data rest hphase hqueue =>
      refine Relation.ReflTransGen.single
        (Conveyor.Step.take {data} rfl ?_ ?_ rfl)
      · change (s.asyncSendData : Multiset DataContainer) = _
        rw [hqueue]
        rfl
      · exact Conveyor.sum_update_gain Phase.holding s.handlers i (.popped data)
          (by rw [hphase]; rfl)
  | reject data hphase hfails =>
      refine Relation.ReflTransGen.single
        (Conveyor.Step.leave Exit.rejected {data} rfl rfl ?_ ?_ ?_)
      · exact Conveyor.sum_update_lose Phase.holding s.handlers i
          (.sent data (-1)) (by rw [hphase]; rfl)
      · exact (Multiset.coe_add _ _).symm
      · intro e he
        cases e with
        | handed => rfl
        | rejected => exact absurd rfl he
  | start data hphase hfails =>
      have hheld := Conveyor.sum_update_same Phase.holding s.handlers i
        (.sending data
          (padFrame data.data.bytes (UInt32.ofNat data.length)).1)
        (by rw [hphase]; rfl)
      exact Conveyor.Steps.same rfl rfl hheld rfl
  | retry data pkt hphase => exact Relation.ReflTransGen.refl
  | accept data pkt rc hphase hrc =>
      refine Relation.ReflTransGen.single
        (Conveyor.Step.leave Exit.handed {data} rfl rfl ?_ ?_ ?_)
      · exact Conveyor.sum_update_lose Phase.holding s.handlers i (.sent data rc)
          (by rw [hphase]; rfl)
      · change ((List.map Handed.data (s.handed ++ [_]) : List DataContainer) :
          Multiset DataContainer) = _
        rw [List.map_append, ← Multiset.coe_add]
        rfl
      · intro e he
        cases e with
        | handed => exact absurd rfl he
        | rejected => rfl
  | release data bytes hphase =>
      have hheld := Conveyor.sum_update_same Phase.holding s.handlers i .idle
        (by rw [hphase]; rfl)
      exact Conveyor.Steps.same rfl rfl hheld rfl

theorem balanced_iff (s : State n) :
    Conveyor.Balanced (view s) <->
      (s.enqueued : Multiset DataContainer) =
        s.asyncSendData + ∑ i, (s.handlers i).holding +
          (s.handed.map Handed.data + s.rejected) := by
  have hexits : ∑ e, (view s).left e =
      (s.handed.map Handed.data + s.rejected : Multiset DataContainer) := by
    change ∑ e ∈ {Exit.handed, Exit.rejected}, (view s).left e = _
    rw [Finset.sum_pair (by decide)]
    rfl
  rw [Conveyor.Balanced, hexits]
  rfl

theorem initial_balanced : Conveyor.Balanced (view (State.initial n)) := by
  rw [balanced_iff]
  simp [State.initial, Phase.holding]

/-!
## Frames that fit

A frame that needs no trailer and passes the length test reaches the driver
unchanged.  If all enqueued frames are of this kind, none is ever rejected.
-/

structure Fits (data : DataContainer) : Prop where
  low : 60 ≤ data.length
  high : data.length ≤ 1500
  whole : data.data.bytes.length = data.length

def Phase.Sound : Phase -> Prop
  | .popped data => Fits data
  | .sending data pkt => pkt = data.data.bytes
  | .idle => True
  | .sent _ _ => True

structure AllFit (s : State n) : Prop where
  waiting : forall data, data ∈ s.asyncSendData -> Fits data
  handlers : forall i, (s.handlers i).Sound
  handed : forall h, h ∈ s.handed -> h.packet = h.data.data.bytes
  rejected : s.rejected = []

theorem initial_allFit : AllFit (State.initial n) := by
  refine ⟨?_, fun _ => trivial, ?_, rfl⟩
  · intro data hdata
    cases hdata
  · intro h hhanded
    cases hhanded

theorem asyncSendFrame_allFit {s : State n} {data : DataContainer}
    (hdata : Fits data) (h : AllFit s) : AllFit (asyncSendFrame s data) := by
  unfold asyncSendFrame
  split
  · refine ⟨?_, h.handlers, h.handed, h.rejected⟩
    intro d hd
    rcases List.mem_append.mp hd with hold | hnew
    · exact h.waiting d hold
    · rw [List.mem_singleton.mp hnew]
      exact hdata
  · exact h

theorem sound_update {handlers : Fin n -> Phase} {i : Fin n} {phase : Phase}
    (hold : forall j, (handlers j).Sound) (hnew : phase.Sound) :
    forall j, (Function.update handlers i phase j).Sound := by
  intro j
  by_cases hj : j = i
  · rw [hj, Function.update_self]
    exact hnew
  · rw [Function.update_of_ne hj]
    exact hold j

theorem handler_allFit {ring : Fin n -> Bool} (hring : forall i, ring i = true)
    {s s' : State n} {i : Fin n} (hmove : HandlerMove ring s i s')
    (h : AllFit s) : AllFit s' := by
  have hphase := h.handlers i
  cases hmove with
  | empty hi hqueue => exact ⟨h.waiting, h.handlers, h.handed, h.rejected⟩
  | pop data rest hi hqueue =>
      have hwaiting : forall d, d ∈ data :: rest -> Fits d := by
        rw [← hqueue]
        exact h.waiting
      refine ⟨?_, sound_update h.handlers ?_, h.handed, h.rejected⟩
      · intro d hd
        exact hwaiting d (List.mem_cons_of_mem _ hd)
      · exact hwaiting data (List.mem_cons_self ..)
  | reject data hi hfails =>
      rw [hi] at hphase
      rw [hring, (padFrame_whole hphase.low hphase.high hphase.whole).right]
        at hfails
      cases hfails
  | start data hi hfails =>
      rw [hi] at hphase
      exact ⟨h.waiting, sound_update h.handlers
        (padFrame_whole hphase.low hphase.high hphase.whole).left,
        h.handed, h.rejected⟩
  | retry data pkt hi => exact h
  | accept data pkt rc hi hrc =>
      rw [hi] at hphase
      refine ⟨h.waiting, sound_update h.handlers trivial, ?_, h.rejected⟩
      intro x hx
      rcases List.mem_append.mp hx with hold | hnew
      · exact h.handed x hold
      · rw [List.mem_singleton.mp hnew]
        exact hphase
  | release data bytes hi =>
      exact ⟨h.waiting, sound_update h.handlers trivial, h.handed, h.rejected⟩

end System

end PFringHandler
end Socket
end FarmNetworking
