import FarmNetworking.Foundation.Conveyor
import FarmNetworking.Foundation.SharedBuffer

/-!
# Receiving frames

`GetNextFrame` of the two back ends, called by any number of threads.  Both count
frames and bytes in two separate atomic steps, in different orders.  A call is cut
there and behind the call of the library.

Over raw sockets all threads receive into one static buffer, and the caller is
given its address.
-/

namespace FarmNetworking
namespace Socket
namespace Receiver

open Foundation Runs

/-!
## The counters
-/

/-- The last two fields are history: the lengths that the counters have taken in. -/
structure Counters where
  framesReceived : UInt64
  bytesReceived : UInt64
  framesCounted : List UInt32
  bytesCounted : List UInt32

def Counters.initial : Counters where
  framesReceived := 0
  bytesReceived := 0
  framesCounted := []
  bytesCounted := []

def countFrame (c : Counters) (len : UInt32) : Counters :=
  { c with
    framesReceived := c.framesReceived + 1
    framesCounted := c.framesCounted ++ [len] }

def countBytes (c : Counters) (len : UInt32) : Counters :=
  { c with
    bytesReceived := c.bytesReceived + len.toUInt64
    bytesCounted := c.bytesCounted ++ [len] }

inductive Phase where
  | outside
  /-- With a frame of the given length, before the first counter. -/
  | received (len : UInt32)
  /-- Before the second counter. -/
  | counted (len : UInt32)
  deriving DecidableEq

/-- The last two fields are history. -/
structure State (n : Nat) where
  phases : Fin n -> Phase
  counters : Counters
  lengths : List UInt32
  returned : List Int

def State.initial (n : Nat) : State n where
  phases := fun _ => .outside
  counters := Counters.initial
  lengths := []
  returned := []

section Steps

variable {n : Nat}

def arrive (s : State n) (i : Fin n) (len : UInt32) : State n :=
  { s with
    phases := Function.update s.phases i (.received len)
    lengths := s.lengths ++ [len] }

def giveUp (s : State n) (result : Int) : State n :=
  { s with returned := s.returned ++ [result] }

def firstCounter (count : Counters -> UInt32 -> Counters) (s : State n)
    (i : Fin n) (len : UInt32) : State n :=
  { s with
    phases := Function.update s.phases i (.counted len)
    counters := count s.counters len }

def secondCounter (count : Counters -> UInt32 -> Counters) (s : State n)
    (i : Fin n) (len : UInt32) (result : Int) : State n :=
  { s with
    phases := Function.update s.phases i .outside
    counters := count s.counters len
    returned := s.returned ++ [result] }

end Steps

/-!
## Raw sockets
-/

namespace PCap

/-- The size of `recvBuffer_`, which is all that `recvfrom` is allowed to fill. -/
def bufSize : Nat := 9000

def getNumberOfQueues : Nat := 1

structure State (n : Nat) where
  receiver : Receiver.State n
  recvBuffer : SharedBuffer (Fin n)

/-- The buffer is not cleared when it is allocated. -/
def State.initial (n : Nat) (content : Vector UInt8 bufSize) : State n where
  receiver := Receiver.State.initial n
  recvBuffer := { bytes := content.toList, lent := fun _ => none }

/-- A caller that asks again is done with the frame it had. -/
def getNextFrame {n : Nat} (s : State n) (i : Fin n)
    (recvfrom : Option (List UInt8)) : State n :=
  match s.receiver.phases i with
  | .outside =>
      match recvfrom with
      | none =>
          { receiver := giveUp s.receiver 0
            recvBuffer := s.recvBuffer.giveBack i }
      | some frame =>
          { receiver := arrive s.receiver i
              (UInt32.ofNat (frame.take bufSize).length)
            recvBuffer := s.recvBuffer.lend i (frame.take bufSize) }
  | .received len =>
      { s with receiver := firstCounter countFrame s.receiver i len }
  | .counted len =>
      { s with receiver :=
          secondCounter countBytes s.receiver i len len.toInt32.toInt }

/-- A thread and what `recvfrom` does if called: no frame stands for `-1`. -/
abbrev Label (n : Nat) := Fin n × Option (List UInt8)

def step {n : Nat} (s : State n) (a : Label n) : State n :=
  getNextFrame s a.1 a.2

end PCap

/-!
## PF_RING
-/

namespace PFring

/-- `hdr` tells whether the pointer to the header is set. -/
def getNextPacket (ring hdr : Bool) (pfringRecv : Int) : Int :=
  if !ring || !hdr then -1 else pfringRecv

structure Call (queues : Nat) where
  queueNumber : Fin queues
  hdr : Bool
  pfringRecv : Int
  len : UInt32

def getNextFrame {n queues : Nat} (ring : Fin queues -> Bool) (s : State n)
    (i : Fin n) (call : Call queues) : State n :=
  match s.phases i with
  | .outside =>
      let result := getNextPacket (ring call.queueNumber) call.hdr call.pfringRecv
      if result = 1 then arrive s i call.len else giveUp s result
  | .received len => firstCounter countBytes s i len
  | .counted len => secondCounter countFrame s i len 1

def step {n queues : Nat} (ring : Fin queues -> Bool) (s : State n)
    (a : Fin n × Call queues) : State n :=
  getNextFrame ring s a.1 a.2

end PFring

/-!
## What is counted
-/

def Phase.owesFirst : Phase -> Multiset UInt32
  | .received len => {len}
  | .outside | .counted _ => 0

def Phase.owesSecond : Phase -> Multiset UInt32
  | .received len => {len}
  | .counted len => {len}
  | .outside => 0

section Owes

variable {n : Nat} {s : State n} {i : Fin n} {len : UInt32}

theorem received_owesFirst (h : s.phases i = .received len) :
    (s.phases i).owesFirst = {len} + (Phase.counted len).owesFirst := by
  rw [h]
  exact (add_zero _).symm

theorem received_owesSecond (h : s.phases i = .received len) :
    (Phase.counted len).owesSecond = (s.phases i).owesSecond := by
  rw [h]
  rfl

theorem counted_owesFirst (h : s.phases i = .counted len) :
    Phase.outside.owesFirst = (s.phases i).owesFirst := by
  rw [h]
  rfl

theorem counted_owesSecond (h : s.phases i = .counted len) :
    (s.phases i).owesSecond = {len} + Phase.outside.owesSecond := by
  rw [h]
  exact (add_zero _).symm

end Owes

structure Tallies (c : Counters) : Prop where
  frames : c.framesReceived.toNat = c.framesCounted.length % 2 ^ 64
  bytes : c.bytesReceived.toNat =
    (c.bytesCounted.map UInt32.toNat).sum % 2 ^ 64

/-- The frames are counted, or some thread is about to count them. -/
structure Metered {n : Nat} (owesFrame owesBytes : Phase -> Multiset UInt32)
    (s : State n) : Prop where
  frames : (s.lengths : Multiset UInt32) =
    ∑ i, owesFrame (s.phases i) + s.counters.framesCounted
  bytes : (s.lengths : Multiset UInt32) =
    ∑ i, owesBytes (s.phases i) + s.counters.bytesCounted
  tallies : Tallies s.counters

theorem countFrame_tallies {c : Counters} (h : Tallies c) (len : UInt32) :
    Tallies (countFrame c len) := by
  refine ⟨?_, h.bytes⟩
  change (c.framesReceived + 1).toNat = (c.framesCounted ++ [len]).length % 2 ^ 64
  rw [UInt64.toNat_add, h.frames, List.length_append]
  exact Nat.mod_add_mod _ _ _

theorem countBytes_tallies {c : Counters} (h : Tallies c) (len : UInt32) :
    Tallies (countBytes c len) := by
  refine ⟨h.frames, ?_⟩
  change (c.bytesReceived + len.toUInt64).toNat =
    ((c.bytesCounted ++ [len]).map UInt32.toNat).sum % 2 ^ 64
  rw [UInt64.toNat_add, h.bytes, UInt32.toNat_toUInt64, List.map_append,
    List.sum_append]
  exact Nat.mod_add_mod _ _ _

section Metering

variable {n : Nat} {s : State n} {i : Fin n}

theorem arrive_owed {owes : Phase -> Multiset UInt32} {done : List UInt32}
    (houtside : owes .outside = 0)
    (hreceived : forall len, owes (.received len) = {len})
    (hphase : s.phases i = .outside)
    (h : (s.lengths : Multiset UInt32) = ∑ i, owes (s.phases i) + done)
    (len : UInt32) :
    ((arrive s i len).lengths : Multiset UInt32) =
      ∑ j, owes ((arrive s i len).phases j) + done := by
  have hheld := Conveyor.sum_update_gain owes s.phases i (.received len)
    (x := {len}) (by rw [hphase, houtside, hreceived, zero_add])
  change ((s.lengths ++ [len] : List UInt32) : Multiset UInt32) =
    ∑ j, owes (Function.update s.phases i (.received len) j) + done
  rw [hheld, ← Multiset.coe_add, h, Multiset.coe_singleton]
  abel

theorem arrive_metered {owesFrame owesBytes : Phase -> Multiset UInt32}
    (hframe : owesFrame .outside = 0 ∧
      forall len, owesFrame (.received len) = {len})
    (hbytes : owesBytes .outside = 0 ∧
      forall len, owesBytes (.received len) = {len})
    (h : Metered owesFrame owesBytes s) (hphase : s.phases i = .outside)
    (len : UInt32) : Metered owesFrame owesBytes (arrive s i len) :=
  ⟨arrive_owed hframe.left hframe.right hphase h.frames len,
    arrive_owed hbytes.left hbytes.right hphase h.bytes len, h.tallies⟩

theorem paid {owes : Phase -> Multiset UInt32} {done : List UInt32}
    {len : UInt32} {phase : Phase}
    (howes : owes (s.phases i) = {len} + owes phase)
    (h : (s.lengths : Multiset UInt32) = ∑ j, owes (s.phases j) + done) :
    (s.lengths : Multiset UInt32) =
      ∑ j, owes (Function.update s.phases i phase j) +
        (done ++ [len] : List UInt32) := by
  have hheld := Conveyor.sum_update_lose owes s.phases i phase howes
  rw [h, hheld, ← Multiset.coe_add, Multiset.coe_singleton]
  abel

theorem unpaid {owes : Phase -> Multiset UInt32} {done : List UInt32}
    {phase : Phase} (howes : owes phase = owes (s.phases i))
    (h : (s.lengths : Multiset UInt32) = ∑ j, owes (s.phases j) + done) :
    (s.lengths : Multiset UInt32) =
      ∑ j, owes (Function.update s.phases i phase j) + done := by
  rw [Conveyor.sum_update_same owes s.phases i phase howes]
  exact h

theorem giveUp_metered {owesFrame owesBytes : Phase -> Multiset UInt32}
    (h : Metered owesFrame owesBytes s) (result : Int) :
    Metered owesFrame owesBytes (giveUp s result) :=
  ⟨h.frames, h.bytes, h.tallies⟩

end Metering

theorem initial_metered {n : Nat} {owesFrame owesBytes : Phase -> Multiset UInt32}
    (hframe : owesFrame .outside = 0) (hbytes : owesBytes .outside = 0) :
    Metered owesFrame owesBytes (State.initial n) := by
  refine ⟨?_, ?_, rfl, rfl⟩
  · simp [State.initial, Counters.initial, hframe]
  · simp [State.initial, Counters.initial, hbytes]

theorem Metered.settled {n : Nat} {owesFrame owesBytes : Phase -> Multiset UInt32}
    {s : State n} (h : Metered owesFrame owesBytes s)
    (hframe : owesFrame .outside = 0) (hbytes : owesBytes .outside = 0)
    (houtside : forall i, s.phases i = .outside) :
    s.counters.framesReceived.toNat = s.lengths.length % 2 ^ 64 ∧
      s.counters.bytesReceived.toNat =
        (s.lengths.map UInt32.toNat).sum % 2 ^ 64 := by
  have hnone : forall owes : Phase -> Multiset UInt32, owes .outside = 0 ->
      ∑ i, owes (s.phases i) = 0 := by
    intro owes howes
    exact Finset.sum_eq_zero fun i _ => by rw [houtside i, howes]
  have hframes := h.frames
  have hcounted := h.bytes
  rw [hnone _ hframe, zero_add, Multiset.coe_eq_coe] at hframes
  rw [hnone _ hbytes, zero_add, Multiset.coe_eq_coe] at hcounted
  constructor
  · rw [h.tallies.frames, hframes.length_eq]
  · rw [h.tallies.bytes, (hcounted.map UInt32.toNat).sum_eq]

namespace PCap

theorem step_metered {n : Nat} {s : State n}
    (h : Metered Phase.owesFirst Phase.owesSecond s.receiver) (a : Label n) :
    Metered Phase.owesFirst Phase.owesSecond (step s a).receiver := by
  rcases a with ⟨i, recvfrom⟩
  unfold step getNextFrame
  cases hphase : s.receiver.phases i with
  | outside =>
      cases recvfrom with
      | none => exact giveUp_metered h 0
      | some frame =>
          exact arrive_metered ⟨rfl, fun _ => rfl⟩ ⟨rfl, fun _ => rfl⟩ h hphase _
  | received len =>
      have hframes := paid (received_owesFirst hphase) h.frames
      have hbytes := unpaid (received_owesSecond hphase) h.bytes
      exact ⟨hframes, hbytes, countFrame_tallies h.tallies len⟩
  | counted len =>
      have hframes := unpaid (counted_owesFirst hphase) h.frames
      have hbytes := paid (counted_owesSecond hphase) h.bytes
      exact ⟨hframes, hbytes, countBytes_tallies h.tallies len⟩

end PCap

namespace PFring

theorem step_metered {n queues : Nat} {ring : Fin queues -> Bool} {s : State n}
    (h : Metered Phase.owesSecond Phase.owesFirst s) (a : Fin n × Call queues) :
    Metered Phase.owesSecond Phase.owesFirst (step ring s a) := by
  rcases a with ⟨i, call⟩
  unfold step getNextFrame
  cases hphase : s.phases i with
  | outside =>
      dsimp only
      split
      · exact arrive_metered ⟨rfl, fun _ => rfl⟩ ⟨rfl, fun _ => rfl⟩ h hphase _
      · exact giveUp_metered h _
  | received len =>
      have hframes := unpaid (received_owesSecond hphase) h.frames
      have hbytes := paid (received_owesFirst hphase) h.bytes
      exact ⟨hframes, hbytes, countBytes_tallies h.tallies len⟩
  | counted len =>
      have hframes := paid (counted_owesSecond hphase) h.frames
      have hbytes := unpaid (counted_owesFirst hphase) h.bytes
      exact ⟨hframes, hbytes, countFrame_tallies h.tallies len⟩

end PFring

structure Counted {n : Nat} (owesFrame owesBytes : Phase -> Multiset UInt32)
    (s : State n) : Prop where
  metered : Metered owesFrame owesBytes s
  settled : (forall i, s.phases i = .outside) ->
    s.counters.framesReceived.toNat = s.lengths.length % 2 ^ 64 ∧
      s.counters.bytesReceived.toNat =
        (s.lengths.map UInt32.toNat).sum % 2 ^ 64

/-- In all interleavings the counters of both back ends take in every frame once. -/
theorem received_counted (n queues : Nat) :
    (forall (content : Vector UInt8 PCap.bufSize) (as : List (PCap.Label n)),
      Counted Phase.owesFirst Phase.owesSecond
        (run PCap.step (PCap.State.initial n content) as).receiver) ∧
    (forall (ring : Fin queues -> Bool) (as : List (Fin n × PFring.Call queues)),
      Counted Phase.owesSecond Phase.owesFirst
        (run (PFring.step ring) (State.initial n) as)) := by
  constructor
  · intro content as
    have h := run_invariant
      (I := fun s : PCap.State n =>
        Metered Phase.owesFirst Phase.owesSecond s.receiver)
      (fun s a hs => PCap.step_metered hs a)
      (initial_metered rfl rfl) (s := PCap.State.initial n content) as
    exact ⟨h, h.settled rfl rfl⟩
  · intro ring as
    have h : Metered Phase.owesSecond Phase.owesFirst
        (run (PFring.step ring) (State.initial n) as) :=
      run_invariant (I := Metered (n := n) Phase.owesSecond Phase.owesFirst)
        (fun s a hs => PFring.step_metered hs a) (initial_metered rfl rfl) as
    exact ⟨h, h.settled rfl rfl⟩

/-!
## What the callers find in the buffer
-/

namespace PCap

theorem step_bufSize {n : Nat} (s : State n) (a : Label n)
    (h : s.recvBuffer.bytes.length = bufSize) :
    (step s a).recvBuffer.bytes.length = bufSize := by
  unfold step getNextFrame
  split
  · split
    · exact h
    · exact (ByteString.copyAt_length _ _ _).trans h
  · exact h
  · exact h

def Undisturbed {n : Nat} (s : State n) (a : Label n) : Prop :=
  s.receiver.phases a.1 = .outside ->
    forall frame, a.2 = some frame -> forall j, j ≠ a.1 ->
      forall old, s.recvBuffer.lent j = some old ->
        SharedBuffer.Agree (frame.take bufSize) old

theorem step_intact_iff {n : Nat} {s : State n}
    (hsize : s.recvBuffer.bytes.length = bufSize) (h : s.recvBuffer.Intact)
    (a : Label n) : (step s a).recvBuffer.Intact <-> Undisturbed s a := by
  rcases a with ⟨i, recvfrom⟩
  unfold step getNextFrame Undisturbed
  cases hphase : s.receiver.phases i with
  | outside =>
      cases recvfrom with
      | none => exact iff_of_true (SharedBuffer.giveBack_intact h i) nofun
      | some frame =>
          have hfits : (frame.take bufSize).length ≤ s.recvBuffer.bytes.length := by
            rw [hsize]
            exact List.length_take_le _ _
          refine (SharedBuffer.lend_intact_iff h i hfits).trans ?_
          constructor
          · rintro hagree - other ⟨⟩
            exact hagree
          · intro hagree
            exact hagree rfl frame rfl
  | received len => exact iff_of_true h nofun
  | counted len => exact iff_of_true h nofun

theorem undisturbed_of_subsingleton {n : Nat} (hn : n = getNumberOfQueues)
    (s : State n) (a : Label n) : Undisturbed s a := by
  subst hn
  intro _ frame _ j hj
  exact absurd (Subsingleton.elim (α := Fin 1) j a.1) hj

/--
All threads go on finding the frames that they were given exactly if no frame
arrives while another thread has one that differs.  One thread for the one queue
that the back end reports is safe.
-/
theorem frames_intact_iff (n : Nat) (content : Vector UInt8 bufSize)
    (as : List (Label n)) :
    (Along (fun s => s.recvBuffer.Intact) step (State.initial n content) as <->
      StepsMeet Undisturbed step (State.initial n content) as) ∧
    (n = getNumberOfQueues ->
      Along (fun s => s.recvBuffer.Intact) step (State.initial n content) as) := by
  have hiff := along_iff_stepsMeet
    (I := fun s : State n => s.recvBuffer.bytes.length = bufSize)
    (P := fun s : State n => s.recvBuffer.Intact)
    (fun s a h => step_bufSize s a h)
    (fun s a hsize h => step_intact_iff hsize h a)
    (s := State.initial n content) content.length_toList nofun as
  refine ⟨hiff, fun hn => hiff.mpr ?_⟩
  exact stepsMeet_of_mem (fun a _ s => undisturbed_of_subsingleton hn s a) _

end PCap

end Receiver
end Socket
end FarmNetworking
