import FarmNetworking.Socket.PCapSendQueue

/-!
# The buffers of the frames sent over raw sockets

Every frame buffer should be deleted once, by the call that has sent its frame,
and until then somebody should have a pointer to it.  The thread that sends the
ARP requests allocates a new buffer in every turn and forbids the others to
delete it, so each of its requests leaves a buffer behind.
-/

namespace FarmNetworking
namespace Socket
namespace PCapHandler

open Foundation Runs
open Structs EthernetUtils NetworkHandler

def Phase.carried : Phase -> Option DataContainer
  | .idle => none
  | .popped data => some data
  | .sent data _ => some data

section System

variable {m n : Nat}

inductive Present (s : State m n) (data : DataContainer) : Prop where
  | queued : data ∈ s.net.asyncSendData -> Present s data
  | carried (i : Fin n) : (s.handlers i).carried = some data -> Present s data
  | arp : s.arp = some data -> Present s data
  | caller (j : Fin m) : s.callers j = some data -> Present s data

def Referenced (s : State m n) (buffer : Buffer) : Prop :=
  exists data, Present s data ∧ data.data = buffer

structure Kept (s : State m n) : Prop where
  referenced : forall buffer, buffer ∈ s.allocated -> buffer ∉ s.net.freed ->
    Referenced s buffer
  releasedOnce : (s.net.freed.map Buffer.address).Nodup

def Deletes (s : State m n) : Action m n -> Prop
  | .doSendQueuedFrames i _ =>
      match s.handlers i with
      | .sent data _ => data.ownerMayFreeData = true
      | .popped _ => True
      | .idle => True
  | .thread _ => True
  | .asyncSendFrame _ _ _ => True

/-!
## What a step can do
-/

variable (myMac : MacAddress) (myIP : UInt32)

inductive Move (s : State m n) : State m n -> Prop where
  | idle : Move s s
  | allocateARP (block : FreshBlock) : s.arp = none ->
      block.address = s.allocated.length ->
      Move s { s with
        arp := some (request myMac myIP block)
        allocated := s.allocated ++ [(request myMac myIP block).data] }
  | pushARP (arp : DataContainer) : s.arp = some arp ->
      Move s { s with net := PCap.asyncSendFrame s.net arp, arp := none }
  | allocate (j : Fin m) (data : DataContainer) : s.callers j = none ->
      data.data.address = s.allocated.length -> data.ownerMayFreeData = true ->
      Move s { s with
        callers := Function.update s.callers j (some data)
        allocated := s.allocated ++ [data.data] }
  | push (j : Fin m) (data : DataContainer) : s.callers j = some data ->
      Move s { s with
        net := PCap.asyncSendFrame s.net data
        callers := Function.update s.callers j none }
  | pop (i : Fin n) (data : DataContainer) (rest : List DataContainer) :
      s.handlers i = .idle -> s.net.asyncSendData = data :: rest ->
      Move s { s with
        net := { s.net with asyncSendData := rest }
        handlers := Function.update s.handlers i (.popped data) }
  | send (i : Fin n) (data : DataContainer) (bytes : Int)
      (net : NetworkHandler.State) : s.handlers i = .popped data ->
      net.asyncSendData = s.net.asyncSendData -> net.freed = s.net.freed ->
      Move s { s with
        net := net
        handlers := Function.update s.handlers i (.sent data bytes) }
  | finish (i : Fin n) (data : DataContainer) (bytes : Int) :
      s.handlers i = .sent data bytes ->
      Move s { s with
        net := count (release s.net data)
        handlers := Function.update s.handlers i .idle
        abandoned := if data.ownerMayFreeData then s.abandoned
          else s.abandoned ++ [data.data] }

theorem thread_move (s : State m n) (content : Vector UInt8 64) :
    Move myMac myIP s (thread myMac myIP s content) := by
  unfold thread
  split
  next harp => exact Move.allocateARP _ harp rfl
  next arp harp => exact Move.pushARP arp harp

theorem asyncSendFrame_move (s : State m n) (j : Fin m) (frame : List UInt8)
    (length : Nat) :
    Move myMac myIP s (asyncSendFrame s j frame length) := by
  unfold asyncSendFrame
  split
  next hcaller =>
    exact Move.allocate j { data := _, length := length, ownerMayFreeData := true }
      hcaller rfl rfl
  next data hcaller => exact Move.push j data hcaller

theorem doSendQueuedFrames_move (s : State m n) (i : Fin n) (sendto : Int) :
    Move myMac myIP s (doSendQueuedFrames s i sendto) := by
  unfold doSendQueuedFrames
  split
  next hphase =>
    split
    next => exact Move.idle
    next data rest hqueue => exact Move.pop i data rest hphase hqueue
  next data hphase =>
    have hkeeps := sendFrameConcurrently_keeps s.net data.data.bytes
      (UInt32.ofNat data.length) sendto
    exact Move.send i data _ _ hphase hkeeps.left hkeeps.right
  next data bytes hphase => exact Move.finish i data bytes hphase

theorem step_move (s : State m n) (a : Action m n) :
    Move myMac myIP s (step myMac myIP s a) := by
  cases a with
  | thread content => exact thread_move myMac myIP s content
  | asyncSendFrame j frame length => exact asyncSendFrame_move myMac myIP s j frame length
  | doSendQueuedFrames i sendto => exact doSendQueuedFrames_move myMac myIP s i sendto

/-!
## The ledger as a conveyor

A buffer waits until its frame is taken out of the queue, is held by the call
that sends it, and is then deleted or abandoned.
-/

inductive Fate where
  | freed
  | abandoned
  deriving DecidableEq

instance : Fintype Fate where
  elems := {.freed, .abandoned}
  complete := by
    intro e
    cases e <;> simp

def pointee : Option DataContainer -> Multiset Buffer
  | none => 0
  | some data => {data.data}

def held (phase : Phase) : Multiset Buffer :=
  pointee phase.carried

def view (s : State m n) : Conveyor Buffer Fate where
  entered := s.allocated
  waiting := pointee s.arp + ∑ j, pointee (s.callers j) +
    (s.net.asyncSendData.map DataContainer.data : List Buffer)
  held := ∑ i, held (s.handlers i)
  left
    | .freed => s.net.freed
    | .abandoned => s.abandoned

theorem mem_pointee {holder : Option DataContainer} {buffer : Buffer} :
    buffer ∈ pointee holder <-> exists data,
      holder = some data ∧ data.data = buffer := by
  cases holder with
  | none => simp [pointee]
  | some data => simp [pointee, eq_comm]

theorem referenced_iff (s : State m n) (buffer : Buffer) :
    Referenced s buffer <->
      buffer ∈ (view s).waiting ∨ buffer ∈ (view s).held := by
  simp only [view, held, Multiset.mem_add, Multiset.mem_sum, mem_pointee,
    Multiset.mem_coe, List.mem_map, Finset.mem_univ, true_and]
  constructor
  · rintro ⟨data, hmem | ⟨i, hcarried⟩ | harp | ⟨j, hcaller⟩, hdata⟩
    · exact Or.inl (Or.inr ⟨data, hmem, hdata⟩)
    · exact Or.inr ⟨i, data, hcarried, hdata⟩
    · exact Or.inl (Or.inl (Or.inl ⟨data, harp, hdata⟩))
    · exact Or.inl (Or.inl (Or.inr ⟨j, data, hcaller, hdata⟩))
  · rintro (((⟨data, harp, hdata⟩ | ⟨j, data, hcaller, hdata⟩) |
      ⟨data, hmem, hdata⟩) | ⟨i, data, hcarried, hdata⟩)
    · exact ⟨data, Present.arp harp, hdata⟩
    · exact ⟨data, Present.caller j hcaller, hdata⟩
    · exact ⟨data, Present.queued hmem, hdata⟩
    · exact ⟨data, Present.carried i hcarried, hdata⟩

theorem coe_map_append (queue : List DataContainer) (data : DataContainer) :
    ((queue ++ [data]).map DataContainer.data : Multiset Buffer) =
      (queue.map DataContainer.data : List Buffer) + {data.data} := by
  rw [List.map_append, ← Multiset.coe_add]
  rfl

theorem move_view {s s' : State m n} (h : Move myMac myIP s s') :
    Conveyor.Steps (view s) (view s') := by
  cases h with
  | idle => exact Relation.ReflTransGen.refl
  | allocateARP block harp haddress =>
      refine Relation.ReflTransGen.single
        (Conveyor.Step.enter {(request myMac myIP block).data} ?_ ?_ rfl rfl)
      · exact (Multiset.coe_add _ _).symm
      · simp only [view, harp, pointee]
        abel
  | pushARP arp harp =>
      refine Conveyor.Steps.same rfl ?_ rfl rfl
      simp only [view, harp, pointee, PCap.asyncSendFrame, coe_map_append]
      abel
  | allocate j data hcaller haddress howner =>
      have hsum := Conveyor.sum_update_gain pointee s.callers j (some data)
        (x := {data.data}) (by rw [hcaller]; rfl)
      refine Relation.ReflTransGen.single
        (Conveyor.Step.enter {data.data} ?_ ?_ rfl rfl)
      · exact (Multiset.coe_add _ _).symm
      · simp only [view, hsum]
        abel
  | push j data hcaller =>
      have hsum := Conveyor.sum_update_lose pointee s.callers j none
        (x := {data.data}) (by rw [hcaller]; rfl)
      refine Conveyor.Steps.same rfl ?_ rfl rfl
      simp only [view, PCap.asyncSendFrame, coe_map_append, hsum]
      abel
  | pop i data rest hphase hqueue =>
      have hsum := Conveyor.sum_update_gain held s.handlers i (.popped data)
        (x := {data.data}) (by rw [hphase]; rfl)
      refine Relation.ReflTransGen.single
        (Conveyor.Step.take {data.data} rfl ?_ hsum rfl)
      simp only [view, hqueue, List.map_cons, ← Multiset.cons_coe,
        ← Multiset.singleton_add]
      abel
  | send i data bytes net hphase hqueue hfreed =>
      have hsum := Conveyor.sum_update_same held s.handlers i (.sent data bytes)
        (by rw [hphase]; rfl)
      refine Conveyor.Steps.same rfl ?_ hsum ?_
      · simp only [view, hqueue]
      · simp only [view, hfreed]
  | finish i data bytes hphase =>
      have hsum := Conveyor.sum_update_lose held s.handlers i .idle
        (x := {data.data}) (by rw [hphase]; rfl)
      -- the flag of the frame decides what becomes of its buffer
      cases howner : data.ownerMayFreeData with
      | true =>
          refine Relation.ReflTransGen.single
            (Conveyor.Step.leave Fate.freed {data.data} rfl ?_ hsum ?_ ?_)
          · simp only [view, count, release_asyncSendData]
          · simp only [view, release, howner, if_pos, count,
              ← Multiset.coe_add]
            rfl
          · intro e he
            cases e with
            | freed => exact absurd rfl he
            | abandoned => rfl
      | false =>
          refine Relation.ReflTransGen.single
            (Conveyor.Step.leave Fate.abandoned {data.data} rfl ?_ hsum ?_
              ?_)
          · simp only [view, count, release_asyncSendData]
          · exact (Multiset.coe_add _ _).symm
          · intro e he
            cases e with
            | freed =>
                simp only [view, release, howner, count]
                rfl
            | abandoned => exact absurd rfl he

/-!
## Reachable states
-/

def Numbered (s : State m n) : Prop :=
  s.allocated.map Buffer.address = List.range s.allocated.length

theorem numbered_append {allocated : List Buffer} {buffer : Buffer}
    (h : allocated.map Buffer.address = List.range allocated.length)
    (haddress : buffer.address = allocated.length) :
    (allocated ++ [buffer]).map Buffer.address =
      List.range (allocated ++ [buffer]).length := by
  rw [List.map_append, h, List.length_append, List.length_singleton,
    List.range_succ, List.map_singleton, haddress]

theorem move_numbered {s s' : State m n} (hmove : Move myMac myIP s s')
    (h : Numbered s) : Numbered s' := by
  cases hmove with
  | allocateARP block harp haddress => exact numbered_append h haddress
  | allocate j data hcaller haddress howner => exact numbered_append h haddress
  | _ => exact h

structure Inv (s : State m n) : Prop where
  numbered : Numbered s
  balanced : Conveyor.Balanced (view s)

theorem initial_inv : Inv (State.initial m n) := by
  constructor
  · rfl
  · have hleft : ∑ e, (view (State.initial m n)).left e = 0 := by
      apply Finset.sum_eq_zero
      intro e _
      cases e <;> rfl
    rw [Conveyor.Balanced, hleft]
    simp [view, State.initial, NetworkHandler.State.initial, held, pointee,
      Phase.carried]

theorem step_inv (s : State m n) (a : Action m n) (h : Inv s) :
    Inv (step myMac myIP s a) := by
  have hmove := step_move myMac myIP s a
  exact ⟨move_numbered myMac myIP hmove h.numbered,
    Conveyor.steps_balanced (move_view myMac myIP hmove) h.balanced⟩

theorem run_inv (actions : List (Action m n)) :
    Inv (run (step myMac myIP) (State.initial m n) actions) :=
  run_invariant (step_inv myMac myIP) initial_inv actions

section Inv

variable {s : State m n}

theorem Inv.allocated_nodup (h : Inv s) : s.allocated.Nodup := by
  apply List.Nodup.of_map Buffer.address
  rw [h.numbered]
  exact List.nodup_range

theorem Inv.released_once (h : Inv s) :
    (s.net.freed.map Buffer.address).Nodup := by
  have hle : (s.net.freed : Multiset Buffer) ≤ s.allocated :=
    h.balanced.left_le Fate.freed
  have haddresses := Multiset.map_le_map (f := Buffer.address) hle
  rw [Multiset.map_coe, Multiset.map_coe, h.numbered] at haddresses
  exact Multiset.coe_nodup.mp (Multiset.nodup_of_le haddresses
    (Multiset.coe_nodup.mpr List.nodup_range))

theorem Inv.abandoned_iff (h : Inv s) (buffer : Buffer) :
    buffer ∈ s.abandoned <-> buffer ∈ s.allocated ∧ buffer ∉ s.net.freed ∧
      ¬Referenced s buffer := by
  have hnodup : (view s).entered.Nodup :=
    Multiset.coe_nodup.mpr h.allocated_nodup
  rw [referenced_iff]
  constructor
  · intro hmem
    have hleft : buffer ∈ (view s).left Fate.abandoned := hmem
    have hne : Fate.abandoned ≠ Fate.freed := by decide
    have hother := h.balanced.not_left_other hnodup hne hleft
    have hthere := h.balanced.not_waiting_or_held hnodup hleft
    refine ⟨?_, hother, not_or.mpr hthere⟩
    exact h.balanced.mem_entered_iff.mpr (Or.inr ⟨Fate.abandoned, hleft⟩)
  · rintro ⟨hallocated, hfreed, hunreferenced⟩
    rcases h.balanced.mem_entered_iff.mp hallocated with hthere | ⟨e, hleft⟩
    · exact absurd hthere hunreferenced
    · cases e with
      | freed => exact absurd hleft hfreed
      | abandoned => exact hleft

theorem Inv.kept_iff (h : Inv s) : Kept s <-> s.abandoned = [] := by
  constructor
  · intro hkept
    apply List.eq_nil_iff_forall_not_mem.mpr
    intro buffer hmem
    rcases (h.abandoned_iff buffer).mp hmem with
      ⟨hallocated, hfreed, hunreferenced⟩
    exact hunreferenced (hkept.referenced buffer hallocated hfreed)
  · intro hnone
    refine ⟨?_, h.released_once⟩
    intro buffer hallocated hfreed
    by_contra hunreferenced
    have hmem := (h.abandoned_iff buffer).mpr
      ⟨hallocated, hfreed, hunreferenced⟩
    rw [hnone] at hmem
    cases hmem

end Inv

/-!
## Runs
-/

theorem thread_abandoned (s : State m n) (content : Vector UInt8 64) :
    (thread myMac myIP s content).abandoned = s.abandoned := by
  unfold thread
  split <;> rfl

theorem asyncSendFrame_abandoned (s : State m n) (j : Fin m)
    (frame : List UInt8) (length : Nat) :
    (asyncSendFrame s j frame length).abandoned = s.abandoned := by
  unfold asyncSendFrame
  split <;> rfl

/-- A step abandons a buffer if it ends a call that may not delete its frame. -/
theorem step_abandoned_iff (s : State m n) (a : Action m n) :
    (step myMac myIP s a).abandoned = [] <-> s.abandoned = [] ∧ Deletes s a := by
  cases a with
  | thread content =>
      rw [step, thread_abandoned, Deletes, and_true]
  | asyncSendFrame j frame length =>
      rw [step, asyncSendFrame_abandoned, Deletes, and_true]
  | doSendQueuedFrames i sendto =>
      rw [step, doSendQueuedFrames, Deletes]
      cases hphase : s.handlers i with
      | idle =>
          dsimp only
          split <;> exact (and_iff_left trivial).symm
      | popped data => exact (and_iff_left trivial).symm
      | sent data bytes =>
          dsimp only
          cases data.ownerMayFreeData with
          | true => simp
          | false => simp

theorem buffers_kept_iff (actions : List (Action m n)) :
    Along Kept (step myMac myIP) (State.initial m n) actions <->
      StepsMeet Deletes (step myMac myIP) (State.initial m n) actions := by
  have hstep : forall (s : State m n) a, Inv s -> Kept s ->
      (Kept (step myMac myIP s a) <-> Deletes s a) := by
    intro s a hinv hkept
    rw [(step_inv myMac myIP s a hinv).kept_iff, step_abandoned_iff]
    exact and_iff_right (hinv.kept_iff.mp hkept)
  exact along_iff_stepsMeet (step_inv myMac myIP) hstep initial_inv
    (initial_inv.kept_iff.mpr rfl) actions

/-!
## Whose buffers are lost

The callers give their buffers away, so only the requests of the thread can be
abandoned.
-/

def Known (data : DataContainer) : Prop :=
  data.ownerMayFreeData = true ∨
    exists block, data = request myMac myIP block

structure LosesRequests (s : State m n) : Prop where
  queue : forall data, data ∈ s.net.asyncSendData -> Known myMac myIP data
  arp : forall data, s.arp = some data -> Known myMac myIP data
  callers : forall j data, s.callers j = some data -> Known myMac myIP data
  handlers : forall i data, (s.handlers i).carried = some data ->
    Known myMac myIP data
  abandoned : forall buffer, buffer ∈ s.abandoned ->
    exists block, buffer = (request myMac myIP block).data

theorem initial_losesRequests :
    LosesRequests myMac myIP (State.initial m n) := by
  constructor
  · intro data hmem
    cases hmem
  · intro data harp
    cases harp
  · intro j data hcaller
    cases hcaller
  · intro i data hcarried
    cases hcarried
  · intro buffer hmem
    cases hmem

section LosesRequests

variable {s s' : State m n}

theorem LosesRequests.push (h : LosesRequests myMac myIP s)
    {data : DataContainer} (hdata : Known myMac myIP data) :
    forall data', data' ∈ (PCap.asyncSendFrame s.net data).asyncSendData ->
      Known myMac myIP data' := by
  intro data' hmem
  rcases List.mem_append.mp hmem with hold | hnew
  · exact h.queue data' hold
  · rw [List.mem_singleton.mp hnew]
    exact hdata

theorem LosesRequests.setCaller (h : LosesRequests myMac myIP s) (j : Fin m)
    {new : Option DataContainer}
    (hnew : forall data, new = some data -> Known myMac myIP data) :
    forall j' data, Function.update s.callers j new j' = some data ->
      Known myMac myIP data :=
  (Function.forall_update_iff s.callers
    (p := fun _ holder => forall data, holder = some data ->
      Known myMac myIP data)).mpr ⟨hnew, fun j' _ => h.callers j'⟩

theorem LosesRequests.setHandler (h : LosesRequests myMac myIP s) (i : Fin n)
    {phase : Phase}
    (hphase : forall data, phase.carried = some data -> Known myMac myIP data) :
    forall i' data,
      (Function.update s.handlers i phase i').carried = some data ->
        Known myMac myIP data :=
  (Function.forall_update_iff s.handlers
    (p := fun _ phase => forall data, phase.carried = some data ->
      Known myMac myIP data)).mpr ⟨hphase, fun i' _ => h.handlers i'⟩

theorem move_losesRequests (hmove : Move myMac myIP s s')
    (h : LosesRequests myMac myIP s) : LosesRequests myMac myIP s' := by
  cases hmove with
  | idle => exact h
  | allocateARP block harp haddress =>
      refine ⟨h.queue, ?_, h.callers, h.handlers, h.abandoned⟩
      intro data hsome
      cases hsome
      exact Or.inr ⟨block, rfl⟩
  | pushARP arp harp =>
      refine ⟨h.push myMac myIP (h.arp arp harp), ?_, h.callers, h.handlers,
        h.abandoned⟩
      intro data hsome
      cases hsome
  | allocate j data hcaller haddress howner =>
      refine ⟨h.queue, h.arp, h.setCaller myMac myIP j ?_, h.handlers,
        h.abandoned⟩
      intro data' hsome
      cases hsome
      exact Or.inl howner
  | push j data hcaller =>
      refine ⟨h.push myMac myIP (h.callers j data hcaller), h.arp,
        h.setCaller myMac myIP j ?_, h.handlers, h.abandoned⟩
      intro data' hsome
      cases hsome
  | pop i data rest hphase hqueue =>
      have hknown : forall data', data' ∈ data :: rest ->
          Known myMac myIP data' := by
        rw [← hqueue]
        exact h.queue
      refine ⟨?_, h.arp, h.callers, h.setHandler myMac myIP i ?_, h.abandoned⟩
      · intro data' hmem
        exact hknown data' (List.mem_cons_of_mem _ hmem)
      · intro data' hsome
        cases hsome
        exact hknown data (List.mem_cons_self ..)
  | send i data bytes net hphase hqueue hfreed =>
      refine ⟨?_, h.arp, h.callers, h.setHandler myMac myIP i ?_, h.abandoned⟩
      · show forall data', data' ∈ net.asyncSendData -> _
        rw [hqueue]
        exact h.queue
      · intro data' hsome
        cases hsome
        exact h.handlers i data (by rw [hphase]; rfl)
  | finish i data bytes hphase =>
      have hknown := h.handlers i data (by rw [hphase]; rfl)
      refine ⟨?_, h.arp, h.callers, h.setHandler myMac myIP i ?_, ?_⟩
      · show forall data', data' ∈ (release s.net data).asyncSendData -> _
        rw [release_asyncSendData]
        exact h.queue
      · intro data' hsome
        cases hsome
      · intro buffer hmem
        rcases hknown with howner | ⟨block, hrequest⟩
        · simp only [howner, if_pos] at hmem
          exact h.abandoned buffer hmem
        · simp only [hrequest, request, Bool.false_eq_true, if_false] at hmem
          rcases List.mem_append.mp hmem with hold | hnew
          · exact h.abandoned buffer hold
          · exact ⟨block, List.mem_singleton.mp hnew⟩

end LosesRequests

theorem run_losesRequests (actions : List (Action m n)) :
    LosesRequests myMac myIP
      (run (step myMac myIP) (State.initial m n) actions) :=
  run_invariant
    (fun s a h => move_losesRequests myMac myIP (step_move myMac myIP s a) h)
    (initial_losesRequests myMac myIP) actions

/-- What is neither deleted nor referenced holds a request of the thread. -/
theorem lost_is_request {actions : List (Action m n)} {buffer : Buffer}
    (hallocated : buffer ∈
      (run (step myMac myIP) (State.initial m n) actions).allocated)
    (hfreed : buffer ∉
      (run (step myMac myIP) (State.initial m n) actions).net.freed)
    (hunreferenced : ¬Referenced
      (run (step myMac myIP) (State.initial m n) actions) buffer) :
    exists block, buffer = (request myMac myIP block).data := by
  have hinv := run_inv myMac myIP actions
  have hmem := (hinv.abandoned_iff buffer).mpr
    ⟨hallocated, hfreed, hunreferenced⟩
  exact (run_losesRequests myMac myIP actions).abandoned buffer hmem

/-!
## Requests that pile up
-/

/-- One turn of the thread, and a handler that sends the frame. -/
def sendRequest (i : Fin n) : List (Action m n) :=
  [.thread (Vector.replicate 64 0), .thread (Vector.replicate 64 0)] ++
    [0, 42, 0].map (Action.doSendQueuedFrames i)

structure Quiet (s : State m n) (i : Fin n) : Prop where
  arp : s.arp = none
  queue : s.net.asyncSendData = []
  handler : s.handlers i = .idle

def zeroBlock (s : State m n) : FreshBlock where
  address := s.allocated.length
  content := Vector.replicate 64 0

theorem run_thread {s : State m n} (h : s.arp = none) :
    run (step myMac myIP) s
        [.thread (Vector.replicate 64 0), .thread (Vector.replicate 64 0)] =
      { s with
        net := PCap.asyncSendFrame s.net (request myMac myIP (zeroBlock s))
        allocated :=
          s.allocated ++ [(request myMac myIP (zeroBlock s)).data] } := by
  simp [step, thread, h, zeroBlock]

theorem run_sendRequest {s : State m n} {i : Fin n} (h : Quiet s i) :
    Quiet (run (step myMac myIP) s (sendRequest i)) i ∧
      (run (step myMac myIP) s (sendRequest i)).abandoned.length =
        s.abandoned.length + 1 := by
  have hqueue : (PCap.asyncSendFrame s.net
      (request myMac myIP (zeroBlock s))).asyncSendData =
      [request myMac myIP (zeroBlock s)] := by
    rw [PCap.asyncSendFrame, h.queue]
    rfl
  have hcall := run_doSendQueuedFrames myMac myIP
    (s := { s with
      net := PCap.asyncSendFrame s.net (request myMac myIP (zeroBlock s))
      allocated := s.allocated ++ [(request myMac myIP (zeroBlock s)).data] })
    h.handler hqueue 42
  rw [sendRequest, run_append, run_thread myMac myIP h.arp, hcall]
  refine ⟨⟨h.arp, ?_, h.handler⟩, ?_⟩
  · exact call_asyncSendData hqueue 42
  · simp [request]

theorem run_sendRequests (i : Fin n) (k : Nat) :
    exists actions : List (Action m n),
      Quiet (run (step myMac myIP) (State.initial m n) actions) i ∧
        (run (step myMac myIP) (State.initial m n) actions).abandoned.length =
          k := by
  induction k with
  | zero => exact ⟨[], ⟨rfl, rfl, rfl⟩, rfl⟩
  | succ k ih =>
      rcases ih with ⟨actions, hquiet, hlength⟩
      rcases run_sendRequest myMac myIP hquiet with ⟨hnext, hmore⟩
      refine ⟨actions ++ sendRequest i, ?_, ?_⟩
      · rw [run_append]
        exact hnext
      · rw [run_append, hmore, hlength]

/-- Any number of buffers can be lost, so the memory in use has no bound. -/
theorem requests_accumulate (i : Fin n) (k : Nat) :
    exists (actions : List (Action m n)) (lost : List Buffer),
      lost.length = k ∧ lost.Nodup ∧ forall buffer, buffer ∈ lost ->
        buffer ∈ (run (step myMac myIP) (State.initial m n) actions).allocated ∧
        buffer ∉ (run (step myMac myIP) (State.initial m n) actions).net.freed ∧
        ¬Referenced (run (step myMac myIP) (State.initial m n) actions) buffer := by
  rcases run_sendRequests (m := m) myMac myIP i k with ⟨actions, _, hlength⟩
  have hinv := run_inv myMac myIP actions
  refine ⟨actions, _, hlength, ?_, ?_⟩
  · exact Multiset.coe_nodup.mp (hinv.balanced.left_nodup
      (Multiset.coe_nodup.mpr hinv.allocated_nodup) Fate.abandoned)
  · intro buffer hmem
    exact (hinv.abandoned_iff buffer).mp hmem

end System

def hostMac : MacAddress := Vector.replicate 6 2

/-- One request is sent, and nobody can delete its buffer any more. -/
theorem request_lost :
    ¬Along Kept (step hostMac 0x0100007f) (State.initial 0 1)
      (sendRequest 0) := by
  intro halong
  have hkept := along_run halong
  rcases hkept.referenced
    (request hostMac 0x0100007f (zeroBlock (State.initial 0 1))).data
    (by decide) (by decide) with
    ⟨data, hmem | ⟨i, hcarried⟩ | harp | ⟨j, _⟩, _⟩
  · cases hmem
  · have hidle : forall i, ((run (step hostMac 0x0100007f) (State.initial 0 1)
        (sendRequest 0)).handlers i).carried = none := by
      decide
    rw [hidle i] at hcarried
    cases hcarried
  · cases harp
  · exact j.elim0

end PCapHandler
end Socket
end FarmNetworking
