import FarmNetworking.Socket.NetworkHandler

/-!
# The number of frames sent

`GetFramesSent` is meant to count what the driver has taken.  Both back ends
count a frame before they know its fate, and the one over raw sockets counts a
queued frame a second time when the call returns.
-/

namespace FarmNetworking
namespace Socket
namespace NetworkHandler

open Foundation Runs
open Structs PFringHandler

/-- What the two drivers answer during one call. -/
structure Driver where
  sendto : Int
  pfringSend : List Int

inductive Call (n : Nat) where
  | asyncSendFrame (data : DataContainer)
  | doSendQueuedFrames (threadNum : Fin n) (driver : Driver)
  | sendFrameConcurrently (threadNum : Fin n) (pkt : List UInt8)
      (pktLen : UInt32) (driver : Driver)

section Runs

variable {n : Nat} (ring : Fin n -> Bool)

def PCap.step (s : State) : Call n -> State
  | .asyncSendFrame data => PCap.asyncSendFrame s data
  | .doSendQueuedFrames _ driver => (PCap.doSendQueuedFrames s driver.sendto).1
  | .sendFrameConcurrently _ pkt pktLen driver =>
      (PCap.sendFrameConcurrently s pkt pktLen driver.sendto).1

def PFring.step (s : State) : Call n -> State
  | .asyncSendFrame data => PFring.asyncSendFrame s data
  | .doSendQueuedFrames i driver =>
      (PFring.doSendQueuedFrames (ring i) s driver.pfringSend).1
  | .sendFrameConcurrently i pkt pktLen driver =>
      (PFring.sendFrameConcurrently (ring i) s pkt pktLen driver.pfringSend).1

structure Both where
  pcap : State
  pfring : State

def Both.initial : Both where
  pcap := State.initial
  pfring := State.initial

def Both.step (s : Both) (call : Call n) : Both where
  pcap := PCap.step s.pcap call
  pfring := PFring.step ring s.pfring call

def Exact (s : State) : Prop :=
  (getFramesSent s).toNat = s.accepted.length

def SameReport (s : Both) : Prop :=
  getFramesSent s.pcap = getFramesSent s.pfring

def HasRoom (s : State) : Prop :=
  s.accepted.length + 1 < 2 ^ 64

instance HasRoom.decidable (s : State) : Decidable (HasRoom s) := by
  unfold HasRoom
  infer_instance

def Taken (ring : Bool) (pkt : List UInt8) (pktLen : UInt32)
    (pfringSend : List Int) : Prop :=
  sendPacketFails ring (padFrame pkt pktLen).2 = false ∧
    exists rc, rc ∈ pfringSend ∧ 0 ≤ rc

instance Taken.decidable (ring : Bool) (pkt : List UInt8) (pktLen : UInt32)
    (pfringSend : List Int) : Decidable (Taken ring pkt pktLen pfringSend) := by
  unfold Taken
  infer_instance

/-- No frame comes out of the queue, and `sendto` accepts what is sent directly. -/
def PCap.Counts (s : State) : Call n -> Prop
  | .asyncSendFrame _ => True
  | .doSendQueuedFrames _ _ => s.asyncSendData = []
  | .sendFrameConcurrently _ _ _ driver => 0 ≤ driver.sendto ∧ HasRoom s

/-- Every frame that is sent is taken, also a frame from the queue. -/
def PFring.Counts (s : State) : Call n -> Prop
  | .asyncSendFrame _ => True
  | .doSendQueuedFrames i driver =>
      forall data, s.asyncSendData.head? = some data ->
        Taken (ring i) data.data.bytes (UInt32.ofNat data.length)
          driver.pfringSend ∧ HasRoom s
  | .sendFrameConcurrently i pkt pktLen driver =>
      Taken (ring i) pkt pktLen driver.pfringSend ∧ HasRoom s

def DequeuesNothing (s : Both) : Call n -> Prop
  | .doSendQueuedFrames _ _ => s.pcap.asyncSendData = []
  | .asyncSendFrame _ => True
  | .sendFrameConcurrently _ _ _ _ => True

/-!
## One call
-/

theorem count_toNat (s : State) :
    (count s).framesSent.toNat = (s.framesSent.toNat + 1) % 2 ^ 64 := by
  change (s.framesSent + 1).toNat = _
  rw [UInt64.toNat_add]
  rfl

theorem exact_accept {s : State} (h : Exact s) (packet : List UInt8) :
    Exact (accept (count s) packet) <-> HasRoom s := by
  have hlt := s.framesSent.toNat_lt
  unfold Exact getFramesSent at *
  change (count s).framesSent.toNat = (s.accepted ++ [packet]).length <-> _
  rw [count_toNat, h, List.length_append, List.length_singleton, HasRoom]
  lia

theorem not_exact_count {s : State} (h : Exact s) : ¬ Exact (count s) := by
  have hlt := s.framesSent.toNat_lt
  unfold Exact getFramesSent at *
  change (count s).framesSent.toNat ≠ s.accepted.length
  rw [count_toNat]
  lia

theorem not_exact_twice {s t : State} (h : Exact s)
    (hcount : t.framesSent = s.framesSent + 1 + 1)
    (hlow : s.accepted.length ≤ t.accepted.length)
    (hhigh : t.accepted.length ≤ s.accepted.length + 1) : ¬ Exact t := by
  have hlt := s.framesSent.toNat_lt
  have htwice : t.framesSent.toNat =
      ((s.framesSent.toNat + 1) % 2 ^ 64 + 1) % 2 ^ 64 := by
    rw [hcount, UInt64.toNat_add, UInt64.toNat_add]
    rfl
  unfold Exact getFramesSent at *
  rw [htwice]
  lia

theorem release_fields (s : State) (data : DataContainer) :
    (release s data).framesSent = s.framesSent ∧
      (release s data).accepted = s.accepted := by
  unfold release
  split <;> exact ⟨rfl, rfl⟩

theorem release_asyncSendData (s : State) (data : DataContainer) :
    (release s data).asyncSendData = s.asyncSendData := by
  unfold release
  split <;> rfl

theorem pcap_send_frame (s : State) (pkt : List UInt8) (pktLen : UInt32)
    (sendto : Int) :
    (PCap.sendFrameConcurrently s pkt pktLen sendto).1.framesSent =
        s.framesSent + 1 ∧
      (PCap.sendFrameConcurrently s pkt pktLen sendto).1.asyncSendData =
        s.asyncSendData := by
  unfold PCap.sendFrameConcurrently
  dsimp only
  split <;> exact ⟨rfl, rfl⟩

theorem pfring_send_frame (ring : Bool) (s : State) (pkt : List UInt8)
    (pktLen : UInt32) (pfringSend : List Int) :
    (PFring.sendFrameConcurrently ring s pkt pktLen pfringSend).1.framesSent =
        s.framesSent + 1 ∧
      (PFring.sendFrameConcurrently ring s pkt pktLen
        pfringSend).1.asyncSendData = s.asyncSendData := by
  unfold PFring.sendFrameConcurrently
  dsimp only
  split
  · exact ⟨rfl, rfl⟩
  · split <;> exact ⟨rfl, rfl⟩

theorem pcap_dequeue_nothing {s : State} (hqueue : s.asyncSendData = [])
    (sendto : Int) : (PCap.doSendQueuedFrames s sendto).1 = s := by
  unfold PCap.doSendQueuedFrames
  rw [hqueue]

theorem pfring_dequeue_nothing (ring : Bool) {s : State}
    (hqueue : s.asyncSendData = []) (pfringSend : List Int) :
    (PFring.doSendQueuedFrames ring s pfringSend).1 = s := by
  unfold PFring.doSendQueuedFrames
  rw [hqueue]

theorem pcap_dequeue_frame {s : State} {data : DataContainer}
    {rest : List DataContainer} (hqueue : s.asyncSendData = data :: rest)
    (sendto : Int) :
    (PCap.doSendQueuedFrames s sendto).1.framesSent = s.framesSent + 1 + 1 ∧
      (PCap.doSendQueuedFrames s sendto).1.asyncSendData = rest := by
  unfold PCap.doSendQueuedFrames
  simp only [hqueue, count]
  have hsend := pcap_send_frame { s with asyncSendData := rest }
    data.data.bytes (UInt32.ofNat data.length) sendto
  rw [(release_fields _ data).left, release_asyncSendData, hsend.left,
    hsend.right]
  exact ⟨rfl, rfl⟩

theorem pcap_dequeue_accepted {s : State} {data : DataContainer}
    {rest : List DataContainer} (hqueue : s.asyncSendData = data :: rest)
    (sendto : Int) :
    s.accepted.length ≤ (PCap.doSendQueuedFrames s sendto).1.accepted.length ∧
      (PCap.doSendQueuedFrames s sendto).1.accepted.length ≤
        s.accepted.length + 1 := by
  unfold PCap.doSendQueuedFrames PCap.sendFrameConcurrently
  simp only [hqueue, count]
  rw [(release_fields _ data).right]
  split
  · exact ⟨Nat.le_refl _, Nat.le_succ _⟩
  · simp [accept]

theorem pfring_dequeue_frame (ring : Bool) {s : State} {data : DataContainer}
    {rest : List DataContainer} (hqueue : s.asyncSendData = data :: rest)
    (pfringSend : List Int) :
    (PFring.doSendQueuedFrames ring s pfringSend).1.framesSent =
        s.framesSent + 1 ∧
      (PFring.doSendQueuedFrames ring s pfringSend).1.asyncSendData = rest := by
  have hsend := pfring_send_frame ring { s with asyncSendData := rest }
    data.data.bytes (UInt32.ofNat data.length) pfringSend
  unfold PFring.doSendQueuedFrames
  simp only [hqueue]
  split
  · next t hnone =>
      rw [hnone] at hsend
      exact hsend
  · next t bytes hsome =>
      rw [hsome] at hsend
      rw [(release_fields t data).left, release_asyncSendData]
      exact hsend

theorem sendLoop_eq_none {rcs : List Int} :
    PFring.sendLoop rcs = none <-> ¬ exists rc, rc ∈ rcs ∧ 0 ≤ rc := by
  induction rcs with
  | nil => simp [PFring.sendLoop]
  | cons rc rest ih =>
      unfold PFring.sendLoop
      split
      · next hrc =>
          rw [ih]
          simp [hrc]
      · next hrc =>
          simp only [List.mem_cons, exists_eq_or_imp, reduceCtorEq, false_iff,
            not_not]
          exact Or.inl (by lia)

theorem pfring_send_exact {s : State} (h : Exact s) (ring : Bool)
    (pkt : List UInt8) (pktLen : UInt32) (pfringSend : List Int) :
    Exact (PFring.sendFrameConcurrently ring s pkt pktLen pfringSend).1 <->
      Taken ring pkt pktLen pfringSend ∧ HasRoom s := by
  unfold PFring.sendFrameConcurrently Taken
  cases hpad : padFrame pkt pktLen with
  | mk pkt' pktLen' =>
      dsimp only
      cases hfails : sendPacketFails ring pktLen' with
      | true =>
          rw [if_pos rfl]
          exact iff_of_false (not_exact_count h) (fun hboth => by
            cases hboth.left.left)
      | false =>
          rw [if_neg Bool.false_ne_true]
          cases hloop : PFring.sendLoop pfringSend with
          | none =>
              exact iff_of_false (not_exact_count h) (fun hboth =>
                sendLoop_eq_none.mp hloop hboth.left.right)
          | some rc =>
              have htaken : exists rc, rc ∈ pfringSend ∧ 0 ≤ rc := by
                by_contra hnone
                rw [sendLoop_eq_none.mpr hnone] at hloop
                cases hloop
              refine (exact_accept h pkt').trans ?_
              exact ⟨fun hroom => ⟨⟨rfl, htaken⟩, hroom⟩, And.right⟩

theorem pcap_step_exact {s : State} (h : Exact s) (call : Call n) :
    Exact (PCap.step s call) <-> PCap.Counts s call := by
  cases call with
  | asyncSendFrame data => exact iff_of_true h trivial
  | sendFrameConcurrently i pkt pktLen driver =>
      unfold PCap.Counts
      change Exact (if driver.sendto < 0 then count s
        else accept (count s) (pkt.take pktLen.toNat)) <-> _
      split
      · next hrc =>
          exact iff_of_false (not_exact_count h) (fun hboth => by lia)
      · next hrc =>
          refine (exact_accept h _).trans ?_
          exact ⟨fun hroom => ⟨by lia, hroom⟩, And.right⟩
  | doSendQueuedFrames i driver =>
      unfold PCap.Counts
      cases hqueue : s.asyncSendData with
      | nil =>
          refine iff_of_true ?_ rfl
          show Exact (PCap.doSendQueuedFrames s driver.sendto).1
          rw [pcap_dequeue_nothing hqueue]
          exact h
      | cons data rest =>
          refine iff_of_false ?_ (List.cons_ne_nil data rest)
          rcases pcap_dequeue_accepted hqueue driver.sendto with ⟨hlow, hhigh⟩
          exact not_exact_twice h (pcap_dequeue_frame hqueue _).left hlow hhigh

theorem pfring_step_exact {s : State} (h : Exact s) (call : Call n) :
    Exact (PFring.step ring s call) <-> PFring.Counts ring s call := by
  cases call with
  | asyncSendFrame data =>
      refine iff_of_true ?_ trivial
      unfold PFring.step PFring.asyncSendFrame
      dsimp only
      split <;> exact h
  | sendFrameConcurrently i pkt pktLen driver =>
      exact pfring_send_exact h (ring i) pkt pktLen driver.pfringSend
  | doSendQueuedFrames i driver =>
      unfold PFring.step PFring.Counts
      dsimp only
      cases hqueue : s.asyncSendData with
      | nil =>
          refine iff_of_true ?_ nofun
          rw [pfring_dequeue_nothing (ring i) hqueue]
          exact h
      | cons data rest =>
          have hsend := pfring_send_exact (s := { s with asyncSendData := rest })
            h (ring i) data.data.bytes (UInt32.ofNat data.length)
            driver.pfringSend
          have hcall : Exact
              (PFring.doSendQueuedFrames (ring i) s driver.pfringSend).1 <->
              Exact (PFring.sendFrameConcurrently (ring i)
                { s with asyncSendData := rest } data.data.bytes
                (UInt32.ofNat data.length) driver.pfringSend).1 := by
            unfold PFring.doSendQueuedFrames
            simp only [hqueue]
            split
            · next t hnone => rw [hnone]
            · next t bytes hsome =>
                rw [hsome]
                unfold Exact getFramesSent
                rw [(release_fields t data).left, (release_fields t data).right]
          rw [hcall, hsend]
          constructor
          · rintro hboth other ⟨⟩
            exact hboth
          · intro hall
            exact hall data rfl

/-!
## The same call on both back ends
-/

theorem pfring_push_length (s : State) (data : DataContainer) :
    (PFring.asyncSendFrame s data).asyncSendData.length ≤
      s.asyncSendData.length + 1 := by
  unfold PFring.asyncSendFrame
  split
  · exact Nat.le_of_eq List.length_append
  · exact Nat.le_succ _

/-- A push that waits for room leaves the queue of PF_RING behind the other one. -/
def Behind (s : Both) : Prop :=
  s.pfring.asyncSendData.length ≤ s.pcap.asyncSendData.length

theorem step_behind (s : Both) (call : Call n) (h : Behind s) :
    Behind (Both.step ring s call) := by
  unfold Behind at *
  cases call with
  | asyncSendFrame data =>
      have hpush := pfring_push_length s.pfring data
      show (PFring.asyncSendFrame s.pfring data).asyncSendData.length ≤
        (s.pcap.asyncSendData ++ [data]).length
      rw [List.length_append, List.length_singleton]
      lia
  | sendFrameConcurrently i pkt pktLen driver =>
      show (PFring.sendFrameConcurrently (ring i) s.pfring pkt pktLen
          driver.pfringSend).1.asyncSendData.length ≤
        (PCap.sendFrameConcurrently s.pcap pkt pktLen
          driver.sendto).1.asyncSendData.length
      rw [(pfring_send_frame (ring i) s.pfring pkt pktLen _).right,
        (pcap_send_frame s.pcap pkt pktLen _).right]
      exact h
  | doSendQueuedFrames i driver =>
      show (PFring.doSendQueuedFrames (ring i) s.pfring
          driver.pfringSend).1.asyncSendData.length ≤
        (PCap.doSendQueuedFrames s.pcap driver.sendto).1.asyncSendData.length
      cases hpfring : s.pfring.asyncSendData with
      | nil =>
          rw [pfring_dequeue_nothing (ring i) hpfring, hpfring]
          exact Nat.zero_le _
      | cons data rest =>
          rw [hpfring, List.length_cons] at h
          rw [(pfring_dequeue_frame (ring i) hpfring _).right]
          cases hpcap : s.pcap.asyncSendData with
          | nil =>
              rw [hpcap] at h
              exact absurd h (Nat.not_succ_le_zero _)
          | cons other others =>
              rw [hpcap, List.length_cons] at h
              rw [(pcap_dequeue_frame hpcap _).right]
              exact Nat.le_of_succ_le_succ h

theorem step_sameReport (s : Both) (call : Call n) (hbehind : Behind s)
    (h : SameReport s) :
    SameReport (Both.step ring s call) <-> DequeuesNothing s call := by
  unfold SameReport getFramesSent at *
  cases call with
  | asyncSendFrame data =>
      have hpush : (PFring.asyncSendFrame s.pfring data).framesSent =
          s.pfring.framesSent := by
        unfold PFring.asyncSendFrame
        split <;> rfl
      exact iff_of_true (h.trans hpush.symm) trivial
  | sendFrameConcurrently i pkt pktLen driver =>
      refine iff_of_true ?_ trivial
      show (PCap.sendFrameConcurrently s.pcap pkt pktLen
          driver.sendto).1.framesSent =
        (PFring.sendFrameConcurrently (ring i) s.pfring pkt pktLen
          driver.pfringSend).1.framesSent
      rw [(pcap_send_frame s.pcap pkt pktLen _).left,
        (pfring_send_frame (ring i) s.pfring pkt pktLen _).left, h]
  | doSendQueuedFrames i driver =>
      show (PCap.doSendQueuedFrames s.pcap driver.sendto).1.framesSent =
          (PFring.doSendQueuedFrames (ring i) s.pfring
            driver.pfringSend).1.framesSent <-> s.pcap.asyncSendData = []
      cases hpcap : s.pcap.asyncSendData with
      | nil =>
          have hpfring : s.pfring.asyncSendData = [] := by
            rw [Behind, hpcap] at hbehind
            exact List.length_eq_zero_iff.mp (Nat.le_zero.mp hbehind)
          rw [pcap_dequeue_nothing hpcap, pfring_dequeue_nothing (ring i) hpfring]
          exact iff_of_true h rfl
      | cons data rest =>
          refine iff_of_false ?_ (List.cons_ne_nil data rest)
          rw [(pcap_dequeue_frame hpcap _).left, h]
          -- two frames on one side, at most one on the other
          cases hpfring : s.pfring.asyncSendData with
          | nil =>
              rw [pfring_dequeue_nothing (ring i) hpfring]
              grind
          | cons other others =>
              rw [(pfring_dequeue_frame (ring i) hpfring _).left]
              grind

/-!
## Runs
-/

/--
Each counter is exact all along a run if and only if the calls of the run count in
that back end, and the two of them report the same number as long as no frame comes
out of the queue of raw sockets.
-/
theorem framesSent_exact_iff (calls : List (Call n)) :
    (Along Exact PCap.step State.initial calls <->
      StepsMeet PCap.Counts PCap.step State.initial calls) ∧
    (Along Exact (PFring.step ring) State.initial calls <->
      StepsMeet (PFring.Counts ring) (PFring.step ring) State.initial calls) ∧
    (Along SameReport (Both.step ring) Both.initial calls <->
      StepsMeet DequeuesNothing (Both.step ring) Both.initial calls) := by
  have hpcap : forall s (call : Call n), True -> Exact s ->
      (Exact (PCap.step s call) <-> PCap.Counts s call) :=
    fun _ call _ h => pcap_step_exact h call
  have hpfring : forall s call, True -> Exact s ->
      (Exact (PFring.step ring s call) <-> PFring.Counts ring s call) :=
    fun _ call _ h => pfring_step_exact ring h call
  have hexact : Exact State.initial := rfl
  have hsame : SameReport Both.initial := rfl
  have hbehind : Behind Both.initial := Nat.le_refl 0
  refine ⟨?_, ?_, ?_⟩
  · exact along_iff_stepsMeet (fun _ _ _ => trivial) hpcap trivial hexact calls
  · exact along_iff_stepsMeet (fun _ _ _ => trivial) hpfring trivial hexact calls
  · exact along_iff_stepsMeet (step_behind ring) (step_sameReport ring)
      hbehind hsame calls

end Runs

def oneFrame : List (Call 1) :=
  [.asyncSendFrame
      { data := { address := 0, bytes := List.replicate 60 7 }
        length := 60
        ownerMayFreeData := true },
    .doSendQueuedFrames ⟨0, Nat.one_pos⟩ { sendto := 60, pfringSend := [60] }]

theorem oneFrame_counted_twice :
    (run PCap.step State.initial oneFrame).accepted.length = 1 ∧
      getFramesSent (run PCap.step State.initial oneFrame) = 2 ∧
      (run (PFring.step fun _ => true) State.initial
        oneFrame).accepted.length = 1 ∧
      getFramesSent (run (PFring.step fun _ => true) State.initial
        oneFrame) = 1 ∧
      ¬ Along Exact PCap.step State.initial oneFrame ∧
      ¬ Along SameReport (Both.step fun _ => true) Both.initial oneFrame := by
  have hcount : getFramesSent (run PCap.step State.initial oneFrame) = 2 := by
    decide
  have haccepted :
      (run PCap.step State.initial oneFrame).accepted.length = 1 := by
    decide
  refine ⟨haccepted, hcount, by decide, by decide, ?_, ?_⟩
  · intro halong
    have hexact := along_run halong
    rw [Exact, hcount, haccepted] at hexact
    exact absurd hexact (by decide)
  · intro halong
    have hsame := along_run halong
    exact absurd hsame (by unfold SameReport; decide)

end NetworkHandler
end Socket
end FarmNetworking
