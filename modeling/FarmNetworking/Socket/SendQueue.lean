import FarmNetworking.Socket.PFringHandler

/-!
# Integrity of the send queue

Any number of threads enqueue frames, any number of packet handlers take them out
and offer them to `send_packet`.  A frame that is taken out is offered once, and
the buffers that the code owns are deleted once, after the offer.

The thread of the handler itself is one of those that enqueue.  It enqueues one
frame over and over and keeps its buffer.
-/

namespace FarmNetworking
namespace Socket
namespace PFringHandler

open Foundation Runs
open Structs

inductive Action (n : Nat) where
  | asyncSendFrame (data : DataContainer)
  | thread
  | doSendQueuedFrames (i : Fin n) (rc : Int)

section System

variable {n : Nat} (ring : Fin n -> Bool) (arp : DataContainer)

/-- One turn of `NetworkHandler::thread`, whose frame is never given away. -/
def thread (s : State n) : State n :=
  asyncSendFrame s { arp with ownerMayFreeData := false }

def step (s : State n) : Action n -> State n
  | .asyncSendFrame data => asyncSendFrame s data
  | .thread => thread arp s
  | .doSendQueuedFrames i rc => doSendQueuedFrames ring s i rc

/-!
## What a handler has in its hands
-/

def Phase.unoffered : Phase -> List DataContainer
  | .popped data => [data]
  | .idle => []
  | .sending _ _ => []
  | .sent _ _ => []

/-- The buffer that is still to be deleted after its frame has been offered. -/
def Phase.owed : Phase -> List Buffer
  | .sending data _ => if data.ownerMayFreeData then [data.data] else []
  | .sent data _ => if data.ownerMayFreeData then [data.data] else []
  | .idle => []
  | .popped _ => []

def Phase.carried : Phase -> Option DataContainer
  | .popped data => some data
  | .sending data _ => some data
  | .sent data _ => some data
  | .idle => none

def ownedBuffers (offered : List Offer) : List Buffer :=
  (offered.filter (fun x => x.data.ownerMayFreeData)).map
    (fun x => x.data.data)

def Offer.Padded (x : Offer) : Prop :=
  let length := (UInt32.ofNat x.data.length).toNat
  x.packet = x.data.data.bytes.take length ++
      List.replicate (60 - length) 0 ∧
    x.pktLen.toNat = max length 60

theorem ofFrame_padded (data : DataContainer) :
    (Offer.ofFrame data).Padded := by
  unfold Offer.Padded Offer.ofFrame padFrame
  generalize UInt32.ofNat data.length = pktLen
  dsimp only
  split
  · next hshort =>
      have hlt : pktLen.toNat < 60 := UInt32.lt_iff_toNat_lt.mp hshort
      refine ⟨rfl, ?_⟩
      change 60 = _
      lia
  · next hlong =>
      have hle : 60 ≤ pktLen.toNat :=
        Nat.le_of_not_lt fun h => hlong (UInt32.lt_iff_toNat_lt.mpr h)
      have hzero : 60 - pktLen.toNat = 0 := by lia
      rw [hzero, List.replicate_zero, List.append_nil]
      exact ⟨rfl, by lia⟩

/-!
## One step
-/

structure Accounts (s : State n) : Prop where
  conserved : (s.enqueued : Multiset DataContainer) =
    s.asyncSendData +
      ∑ i, ((s.handlers i).unoffered : Multiset DataContainer) +
      s.offered.map Offer.data
  ordered : forall i, (forall j, j = i) -> s.enqueued =
    s.offered.map Offer.data ++ (s.handlers i).unoffered ++
      s.asyncSendData
  padded : forall x, x ∈ s.offered -> x.Padded
  freed : (ownedBuffers s.offered : Multiset Buffer) =
    s.freed + ∑ i, ((s.handlers i).owed : Multiset Buffer)

theorem initial_accounts : Accounts (State.initial n) := by
  constructor
  · simp [State.initial, State.initial, Phase.unoffered]
  · intro i _
    rfl
  · intro x hx
    cases hx
  · simp [State.initial, State.initial, Phase.owed, ownedBuffers]

theorem asyncSendFrame_accounts {s : State n} (h : Accounts s)
    (data : DataContainer) :
    Accounts (asyncSendFrame s data) := by
  unfold asyncSendFrame
  split
  · refine ⟨?_, ?_, h.padded, h.freed⟩
    · change ((s.enqueued ++ [data] : List DataContainer) :
        Multiset DataContainer) =
          (s.asyncSendData ++ [data] : List DataContainer) + _ + _
      rw [← Multiset.coe_add, ← Multiset.coe_add, h.conserved]
      abel
    · intro i hi
      change s.enqueued ++ [data] =
        _ ++ (s.asyncSendData ++ [data])
      rw [h.ordered i hi, List.append_assoc]
  · exact h

theorem ownedBuffers_append (offered more : List Offer) :
    ownedBuffers (offered ++ more) =
      ownedBuffers offered ++ ownedBuffers more := by
  unfold ownedBuffers
  rw [List.filter_append, List.map_append]

theorem owned_offer (data : DataContainer) :
    ownedBuffers [Offer.ofFrame data] ++ [] =
      if data.ownerMayFreeData then [data.data] else [] := by
  unfold ownedBuffers Offer.ofFrame
  cases howner : data.ownerMayFreeData <;> simp [howner]

/--
A step of one handler.  What it takes out of the queue and what it has in its
hands is what it offers and what it has in its hands afterwards.
-/
theorem phase_accounts {s s' : State n} (h : Accounts s) {i : Fin n}
    {phase : Phase} (taken : List DataContainer) (offers : List Offer)
    (now : List Buffer)
    (hhandlers : s'.handlers = Function.update s.handlers i phase)
    (henqueued : s'.enqueued = s.enqueued)
    (hqueue : s.asyncSendData = taken ++ s'.asyncSendData)
    (hoffered : s'.offered = s.offered ++ offers)
    (hpadded : forall x, x ∈ offers -> x.Padded)
    (hframe : (s.handlers i).unoffered ++ taken =
      offers.map Offer.data ++ phase.unoffered)
    (hfreed : s'.freed = s.freed ++ now)
    (howed : ownedBuffers offers ++ (s.handlers i).owed = now ++ phase.owed) :
    Accounts s' := by
  constructor
  · have hhands : ((s.handlers i).unoffered : Multiset DataContainer) +
        taken = phase.unoffered + offers.map Offer.data := by
      rw [Multiset.coe_add, hframe, ← Multiset.coe_add, add_comm]
    have hmoved := Conveyor.sum_update_exchange
      (fun p => (p.unoffered : Multiset DataContainer)) s.handlers i phase
      hhands
    have hconserved := h.conserved
    rw [hqueue, ← Multiset.coe_add] at hconserved
    rw [henqueued, hconserved, hhandlers, hoffered, List.map_append,
      ← Multiset.coe_add]
    calc
      _ = (s'.asyncSendData : Multiset DataContainer) +
          (∑ j, ((s.handlers j).unoffered : Multiset DataContainer) +
            taken) + s.offered.map Offer.data := by abel
      _ = _ := by
        rw [← hmoved]
        abel
  · intro j hj
    have hij : i = j := hj i
    subst hij
    rw [henqueued, h.ordered i hj, hqueue, hhandlers, Function.update_self,
      hoffered, List.map_append, List.append_assoc _ _ phase.unoffered,
      ← hframe]
    simp only [List.append_assoc]
  · intro x hx
    rw [hoffered] at hx
    rcases List.mem_append.mp hx with hold | hnew
    · exact h.padded x hold
    · exact hpadded x hnew
  · have hhands : ((s.handlers i).owed : Multiset Buffer) +
        ownedBuffers offers = phase.owed + now := by
      rw [add_comm, Multiset.coe_add, howed, ← Multiset.coe_add, add_comm]
    have hmoved := Conveyor.sum_update_exchange
      (fun p => (p.owed : Multiset Buffer)) s.handlers i phase hhands
    rw [hoffered, ownedBuffers_append, ← Multiset.coe_add, h.freed, hfreed,
      hhandlers, ← Multiset.coe_add]
    calc
      _ = (s.freed : Multiset Buffer) +
          (∑ j, ((s.handlers j).owed : Multiset Buffer) +
            ownedBuffers offers) := by abel
      _ = _ := by
        rw [← hmoved]
        abel

theorem quiet_accounts {s s' : State n} (h : Accounts s) {i : Fin n}
    {phase : Phase} (taken : List DataContainer) (now : List Buffer)
    (hhandlers : s'.handlers = Function.update s.handlers i phase)
    (henqueued : s'.enqueued = s.enqueued)
    (hqueue : s.asyncSendData = taken ++ s'.asyncSendData)
    (hoffered : s'.offered = s.offered)
    (hframe : (s.handlers i).unoffered ++ taken = phase.unoffered)
    (hfreed : s'.freed = s.freed ++ now)
    (howed : (s.handlers i).owed = now ++ phase.owed) : Accounts s' := by
  apply phase_accounts h taken [] now hhandlers henqueued hqueue
  · rw [hoffered, List.append_nil]
  · intro x hx
    cases hx
  · exact hframe
  · exact hfreed
  · exact howed

theorem offer_accounts {s s' : State n} (h : Accounts s) {i : Fin n}
    {phase : Phase} {data : DataContainer} (hphase : s.handlers i = .popped data)
    (hhandlers : s'.handlers = Function.update s.handlers i phase)
    (henqueued : s'.enqueued = s.enqueued)
    (hqueue : s'.asyncSendData = s.asyncSendData)
    (hoffered : s'.offered = s.offered ++ [Offer.ofFrame data])
    (hnone : phase.unoffered = []) (hfreed : s'.freed = s.freed)
    (howed : phase.owed = if data.ownerMayFreeData then [data.data] else []) :
    Accounts s' := by
  apply phase_accounts h [] [Offer.ofFrame data] [] hhandlers henqueued
  · exact hqueue.symm
  · exact hoffered
  · intro x hx
    rw [List.mem_singleton.mp hx]
    exact ofFrame_padded data
  · rw [hphase, hnone]
    rfl
  · rw [hfreed, List.append_nil]
  · rw [hphase, howed]
    exact owned_offer data

theorem handler_accounts {s s' : State n} (h : Accounts s) {i : Fin n}
    (hmove : HandlerMove ring s i s') : Accounts s' := by
  cases hmove with
  | empty hphase hqueue =>
      exact ⟨h.conserved, h.ordered, h.padded, h.freed⟩
  | retry data pkt hphase => exact h
  | pop data rest hphase hqueue =>
      refine quiet_accounts h [data] [] rfl rfl hqueue rfl ?_ ?_ ?_
      · rw [hphase]
        rfl
      · exact (List.append_nil _).symm
      · rw [hphase]
        rfl
  | reject data hphase hfails =>
      exact offer_accounts h hphase rfl rfl rfl rfl rfl rfl rfl
  | start data hphase hfails =>
      exact offer_accounts h hphase rfl rfl rfl rfl rfl rfl rfl
  | accept data pkt rc hphase hrc =>
      refine quiet_accounts h [] [] rfl rfl rfl rfl ?_ ?_ ?_
      · rw [hphase]
        rfl
      · exact (List.append_nil _).symm
      · rw [hphase]
        rfl
  | release data bytes hphase =>
      refine quiet_accounts h []
        (if data.ownerMayFreeData then [data.data] else []) rfl rfl rfl rfl
        ?_ ?_ ?_
      · rw [hphase]
        rfl
      · cases data.ownerMayFreeData with
        | true => rfl
        | false => exact (List.append_nil _).symm
      · rw [hphase]
        exact (List.append_nil _).symm

theorem step_accounts (s : State n) (a : Action n) (h : Accounts s) :
    Accounts (step ring arp s a) := by
  cases a with
  | asyncSendFrame data => exact asyncSendFrame_accounts h data
  | thread => exact asyncSendFrame_accounts h _
  | doSendQueuedFrames i rc =>
      exact handler_accounts ring h (handler_move ring s i rc)

theorem run_accounts (actions : List (Action n)) :
    Accounts (run (step ring arp) (State.initial n) actions) :=
  run_invariant (step_accounts ring arp) initial_accounts actions

/-!
## What happens to a buffer
-/

def InFlight (s : State n) (address : Nat) : Prop :=
  (exists c, c ∈ s.asyncSendData ∧ c.data.address = address) ∨
    exists i c, (s.handlers i).carried = some c ∧ c.data.address = address

structure Integrity (s : State n) : Prop where
  conserved : (s.enqueued : Multiset DataContainer) =
    s.asyncSendData +
      ∑ i, ((s.handlers i).unoffered : Multiset DataContainer) +
      s.offered.map Offer.data
  ordered : forall i, (forall j, j = i) -> s.enqueued =
    s.offered.map Offer.data ++ (s.handlers i).unoffered ++
      s.asyncSendData
  padded : forall x, x ∈ s.offered -> x.Padded
  freedOnce : forall d, d ∈ s.enqueued -> d.ownerMayFreeData = true ->
    (s.enqueued.map (fun c => c.data.address)).count d.data.address = 1 ->
      (s.freed.map Buffer.address).count d.data.address ≤ 1 ∧
      (d.data.address ∈ s.freed.map Buffer.address ->
        d ∈ s.offered.map Offer.data) ∧
      (¬ InFlight s d.data.address ->
        (s.freed.map Buffer.address).count d.data.address = 1)
  kept : forall address, (forall c, c ∈ s.enqueued ->
      c.data.address = address -> c.ownerMayFreeData = false) ->
    address ∉ s.freed.map Buffer.address

theorem mem_ownedBuffers {offered : List Offer} {buffer : Buffer} :
    buffer ∈ ownedBuffers offered <-> exists x, x ∈ offered ∧
      x.data.ownerMayFreeData = true ∧ x.data.data = buffer := by
  simp [ownedBuffers, and_assoc]

theorem Accounts.offered_enqueued {s : State n} (h : Accounts s) :
    (s.offered.map Offer.data : Multiset DataContainer) ≤ s.enqueued := by
  rw [h.conserved]
  exact Multiset.le_add_left _ _

theorem Accounts.freed_offered {s : State n} (h : Accounts s) :
    (s.freed : Multiset Buffer) ≤ ownedBuffers s.offered := by
  rw [h.freed]
  exact Multiset.le_add_right _ _

theorem Accounts.enqueued_of_freed {s : State n} (h : Accounts s)
    {buffer : Buffer} (hfreed : buffer ∈ s.freed) :
    exists x, x ∈ s.offered ∧ x.data ∈ s.enqueued ∧
      x.data.ownerMayFreeData = true ∧ x.data.data = buffer := by
  have howned : buffer ∈ ownedBuffers s.offered :=
    Multiset.mem_coe.mp (Multiset.mem_of_le h.freed_offered hfreed)
  rcases mem_ownedBuffers.mp howned with ⟨x, hx, howner, hbuffer⟩
  refine ⟨x, hx, ?_, howner, hbuffer⟩
  exact Multiset.mem_coe.mp (Multiset.mem_of_le h.offered_enqueued
    (Multiset.mem_coe.mpr (List.mem_map_of_mem hx)))

theorem ownedBuffers_le (offered : List Offer) :
    (ownedBuffers offered : Multiset Buffer) ≤
      (offered.map Offer.data).map DataContainer.data := by
  rw [List.map_map]
  exact Multiset.coe_le.mpr ((List.filter_sublist).map _).subperm

theorem Accounts.freed_count {s : State n} (h : Accounts s) (address : Nat) :
    (s.freed.map Buffer.address).count address ≤
      (s.enqueued.map (fun c => c.data.address)).count address := by
  have hfreed := h.freed_offered.trans (ownedBuffers_le s.offered)
  have hoffered := Multiset.map_le_map (f := DataContainer.data)
    h.offered_enqueued
  have haddress := Multiset.map_le_map (f := Buffer.address)
    (hfreed.trans hoffered)
  have hcount := Multiset.count_le_of_le address haddress
  rw [Multiset.map_coe, Multiset.map_coe, Multiset.map_coe,
    Multiset.coe_count, Multiset.coe_count, List.map_map] at hcount
  exact hcount

theorem eq_of_count_map {item key : Type*} [DecidableEq key] {f : item -> key}
    {items : List item} {x y : item} (hx : x ∈ items) (hy : y ∈ items)
    (heq : f x = f y) (hcount : (items.map f).count (f x) = 1) : x = y := by
  rw [List.count_eq_length_filter, List.filter_map, List.length_map,
    List.length_eq_one_iff] at hcount
  rcases hcount with ⟨z, hz⟩
  have hmem : forall w, w ∈ items -> f w = f x -> w = z := by
    intro w hw hfw
    apply List.mem_singleton.mp
    rw [← hz]
    exact List.mem_filter.mpr ⟨hw, beq_iff_eq.mpr hfw⟩
  rw [hmem x hx rfl, hmem y hy heq.symm]

theorem Accounts.kept {s : State n} (h : Accounts s) {address : Nat}
    (hall : forall c, c ∈ s.enqueued -> c.data.address = address ->
      c.ownerMayFreeData = false) :
    address ∉ s.freed.map Buffer.address := by
  intro hmem
  rcases List.mem_map.mp hmem with ⟨buffer, hbuffer, rfl⟩
  rcases h.enqueued_of_freed hbuffer with ⟨x, _, hx, howner, rfl⟩
  rw [hall x.data hx rfl] at howner
  cases howner

theorem Accounts.offered_of_freed {s : State n} (h : Accounts s)
    {d : DataContainer} (hd : d ∈ s.enqueued)
    (honce : (s.enqueued.map (fun c => c.data.address)).count
      d.data.address = 1)
    (hmem : d.data.address ∈ s.freed.map Buffer.address) :
    d ∈ s.offered.map Offer.data := by
  rcases List.mem_map.mp hmem with ⟨buffer, hbuffer, haddress⟩
  rcases h.enqueued_of_freed hbuffer with ⟨x, hx, hqueued, _, rfl⟩
  rw [eq_of_count_map (f := fun c => c.data.address) hd hqueued haddress.symm
    honce]
  exact List.mem_map_of_mem hx

theorem carried_of_unoffered {phase : Phase} {d : DataContainer}
    (h : d ∈ phase.unoffered) : phase.carried = some d := by
  cases phase with
  | popped data =>
      rw [List.mem_singleton.mp h]
      rfl
  | idle => cases h
  | sending data pkt => cases h
  | sent data bytes => cases h

theorem data_of_mem_deleted {data : DataContainer} {buffer : Buffer}
    (h : buffer ∈ if data.ownerMayFreeData then [data.data] else []) :
    data.data = buffer := by
  split at h
  · exact (List.mem_singleton.mp h).symm
  · cases h

theorem carried_of_owed {phase : Phase} {buffer : Buffer}
    (h : buffer ∈ phase.owed) :
    exists c, phase.carried = some c ∧ c.data = buffer := by
  cases phase with
  | sending data pkt => exact ⟨data, rfl, data_of_mem_deleted h⟩
  | sent data bytes => exact ⟨data, rfl, data_of_mem_deleted h⟩
  | idle => cases h
  | popped data => cases h

theorem Accounts.offered_of_left {s : State n} (h : Accounts s)
    {d : DataContainer} (hd : d ∈ s.enqueued)
    (hleft : ¬ InFlight s d.data.address) :
    d ∈ s.offered.map Offer.data := by
  have hmem : d ∈ (s.enqueued : Multiset DataContainer) := hd
  rw [h.conserved, Multiset.mem_add, Multiset.mem_add] at hmem
  rcases hmem with (hqueue | hhands) | hoffered
  · exact absurd (Or.inl ⟨d, hqueue, rfl⟩) hleft
  · rcases Multiset.mem_sum.mp hhands with ⟨i, _, hi⟩
    exact absurd (Or.inr ⟨i, d, carried_of_unoffered hi, rfl⟩) hleft
  · exact hoffered

theorem Accounts.freed_of_left {s : State n} (h : Accounts s)
    {d : DataContainer} (hd : d ∈ s.enqueued)
    (howner : d.ownerMayFreeData = true)
    (hleft : ¬ InFlight s d.data.address) : d.data ∈ s.freed := by
  rcases List.mem_map.mp (h.offered_of_left hd hleft) with ⟨x, hx, rfl⟩
  have hmem : x.data.data ∈ (ownedBuffers s.offered : Multiset Buffer) :=
    mem_ownedBuffers.mpr ⟨x, hx, howner, rfl⟩
  rw [h.freed, Multiset.mem_add] at hmem
  rcases hmem with hfreed | howed
  · exact hfreed
  · rcases Multiset.mem_sum.mp howed with ⟨i, _, hi⟩
    rcases carried_of_owed hi with ⟨c, hcarried, hbuffer⟩
    exact absurd (Or.inr ⟨i, c, hcarried, by rw [hbuffer]⟩) hleft

theorem Accounts.integrity {s : State n} (h : Accounts s) : Integrity s := by
  refine ⟨h.conserved, h.ordered, h.padded, ?_, fun _ hall => h.kept hall⟩
  intro d hd howner honce
  have hcount := h.freed_count d.data.address
  rw [honce] at hcount
  refine ⟨hcount, h.offered_of_freed hd honce, ?_⟩
  intro hleft
  apply Nat.le_antisymm hcount
  exact List.count_pos_iff.mpr
    (List.mem_map_of_mem (h.freed_of_left hd howner hleft))

/--
Whatever the threads and the handlers do, nothing is lost between the queue, the
handlers and the driver, nothing is offered twice, a single handler keeps the
order, and every buffer is deleted as often as it should be.
-/
theorem sendQueue_integrity (actions : List (Action n)) :
    Integrity (run (step ring arp) (State.initial n) actions) :=
  (run_accounts ring arp actions).integrity

def Offer.Whole (x : Offer) : Prop :=
  x.packet = x.data.data.bytes.take x.data.length ++
      List.replicate (60 - x.data.length) 0 ∧
    x.pktLen.toNat = max x.data.length 60

theorem popped_offered {s : State n} {i : Fin n} {data : DataContainer}
    (hphase : s.handlers i = .popped data) (rc : Int) :
    (doSendQueuedFrames ring s i rc).offered =
      s.offered ++ [Offer.ofFrame data] := by
  unfold doSendQueuedFrames
  rw [hphase]
  dsimp only
  split
  · rfl
  · rfl

end System

/-- `u_int` holds 32 bits, so the length of a larger frame is cut. -/
theorem oversized_not_whole :
    let data : DataContainer :=
      { data := { address := 0, bytes := List.replicate 4294967296 7 }
        length := 4294967296
        ownerMayFreeData := true }
    let s := run (step (fun _ : Fin 1 => true) data) (State.initial 1)
      [.asyncSendFrame data, .doSendQueuedFrames 0 0, .doSendQueuedFrames 0 0]
    ¬ forall x, x ∈ s.offered -> x.Whole := by
  generalize List.replicate 4294967296 (7 : UInt8) = bytes
  intro data s hall
  let popped := run (step (fun _ : Fin 1 => true) data) (State.initial 1)
    [.asyncSendFrame data, .doSendQueuedFrames 0 0]
  have hcall : s.offered = popped.offered ++ [Offer.ofFrame data] :=
    popped_offered (fun _ : Fin 1 => true) (i := 0) (s := popped) rfl 0
  have hoffered : Offer.ofFrame data ∈ s.offered := by
    rw [hcall]
    exact List.mem_append_right _ (List.mem_singleton.mpr rfl)
  have hwhole : (Offer.ofFrame data).pktLen.toNat = max 4294967296 60 :=
    (hall _ hoffered).right
  have hcut : (Offer.ofFrame data).pktLen.toNat =
      max (UInt32.ofNat 4294967296).toNat 60 := (ofFrame_padded data).right
  rw [hwhole] at hcut
  exact absurd hcut (by decide)

end PFringHandler
end Socket
end FarmNetworking
