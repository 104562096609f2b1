import FarmNetworking.L1.Node

/-!
# The buffers of the frames of a node

`Async_SendMRP` allocates one buffer for each frame and gives it away with the
frame; the handler that has sent the frame deletes the buffer.  The request of the
thread stays with the thread.

A buffer counts from the push of its frame on: while `AsyncSendFrame` waits for room
in the queue, the buffer that L1 has just allocated is on no list yet.  L1 pushes its
frames in the order of their allocation, and so they are numbered at the push.  A
number is always in one place only: with a frame in the queue, with a frame that a
handler is sending, or among the deleted ones.
-/

namespace FarmNetworking
namespace L1
namespace Node

open Foundation Runs
open Structs Socket EthernetUtils PFringHandler

def bufferOf (data : DataContainer) : Multiset Buffer :=
  if Owned data then {data.data} else 0

def Phase.buffer (phase : Phase) : Multiset Buffer :=
  match phase.carried with
  | some data => bufferOf data
  | none => 0

def buffersOf (items : List DataContainer) : List Buffer :=
  (items.filter (fun c => Owned c)).map DataContainer.data

section Ledger

variable {n : Nat}

def ledger (u : PFringHandler.State n) : Conveyor Buffer Unit where
  entered := buffersOf u.enqueued
  waiting := buffersOf u.asyncSendData
  held := ∑ i, Phase.buffer (u.handlers i)
  left _ := u.freed

theorem buffersOf_append (items : List DataContainer) (data : DataContainer) :
    (buffersOf (items ++ [data]) : Multiset Buffer) =
      buffersOf items + bufferOf data := by
  unfold buffersOf bufferOf
  by_cases h : Owned data
  · rw [filter_append_owned _ h, List.map_append, if_pos h, ← Multiset.coe_add]
    rfl
  · rw [filter_append_hidden _ h, if_neg h, add_zero]

theorem buffersOf_cons (data : DataContainer) (items : List DataContainer) :
    (buffersOf (data :: items) : Multiset Buffer) =
      bufferOf data + buffersOf items := by
  unfold buffersOf bufferOf
  by_cases h : Owned data
  · rw [List.filter_cons_of_pos (by simpa using h), List.map_cons, if_pos h,
      ← Multiset.cons_coe, Multiset.singleton_add]
  · rw [List.filter_cons_of_neg (by simpa using h), if_neg h, zero_add]

theorem asyncSendFrame_ledger (u : PFringHandler.State n) (data : DataContainer) :
    Conveyor.Steps (ledger u) (ledger (asyncSendFrame u data)) := by
  unfold asyncSendFrame
  split
  · exact Relation.ReflTransGen.single (Conveyor.Step.enter (bufferOf data)
      (buffersOf_append _ _) (buffersOf_append _ _) rfl rfl)
  · exact Relation.ReflTransGen.refl

theorem handler_ledger {ring : Fin n -> Bool} {u u' : PFringHandler.State n} {i : Fin n}
    (hmove : HandlerMove ring u i u') : Conveyor.Steps (ledger u) (ledger u') := by
  -- the frame of a call in progress stays the same up to the end of the call
  have hsame : forall phase : Phase, Phase.buffer phase = Phase.buffer (u.handlers i) ->
      ∑ j, Phase.buffer (Function.update u.handlers i phase j) =
        ∑ j, Phase.buffer (u.handlers j) :=
    fun phase => Conveyor.sum_update_same Phase.buffer u.handlers i phase
  cases hmove with
  | empty hphase hqueue => exact Conveyor.Steps.same rfl rfl rfl rfl
  | pop data rest hphase hqueue =>
      refine Relation.ReflTransGen.single
        (Conveyor.Step.take (bufferOf data) rfl ?_ ?_ rfl)
      · show (buffersOf u.asyncSendData : Multiset Buffer) = _
        rw [hqueue, buffersOf_cons]
        rfl
      · refine Conveyor.sum_update_gain Phase.buffer u.handlers i (.popped data) ?_
        rw [hphase]
        exact (zero_add _).symm
  | reject data hphase hfails =>
      exact Conveyor.Steps.same rfl rfl (hsame _ (by rw [hphase]; rfl)) rfl
  | start data hphase hpasses =>
      exact Conveyor.Steps.same rfl rfl (hsame _ (by rw [hphase]; rfl)) rfl
  | retry data pkt hphase => exact Relation.ReflTransGen.refl
  | accept data pkt rc hphase hrc =>
      exact Conveyor.Steps.same rfl rfl (hsame _ (by rw [hphase]; rfl)) rfl
  | release data bytes hphase =>
      refine Relation.ReflTransGen.single
        (Conveyor.Step.leave () (bufferOf data) rfl rfl ?_ ?_ fun e he => absurd rfl he)
      · refine Conveyor.sum_update_lose Phase.buffer u.handlers i .idle ?_
        rw [hphase]
        exact (add_zero _).symm
      · show ((if Owned data then u.freed ++ [data.data] else u.freed : List Buffer) :
          Multiset Buffer) = u.freed + bufferOf data
        unfold bufferOf
        split
        · exact (Multiset.coe_add _ _).symm
        · exact (add_zero _).symm

theorem initial_ledger_balanced :
    Conveyor.Balanced (ledger (PFringHandler.State.initial n)) := by
  simp [Conveyor.Balanced, ledger, PFringHandler.State.initial, buffersOf, Phase.buffer,
    Phase.carried]

end Ledger

/-!
## Runs
-/

section Runs

variable {n : Nat} (host : Host) (sums : ChecksumFunctions) (t : Templates)
  (ring : Fin n -> Bool) (block : FreshBlock)

/-- The ledger is balanced, and the numbers are given out one after the other. -/
structure Numbered (s : Transmission.State n) : Prop where
  balanced : Conveyor.Balanced (ledger s.net)
  addresses : (buffersOf s.net.enqueued).map Buffer.address = List.range s.nextAddress

theorem handler_numbered {s : Transmission.State n} (h : Numbered s) (i : Fin n)
    (rc : Int) :
    Numbered { s with net := doSendQueuedFrames ring s.net i rc } := by
  have hmove := handler_move ring s.net i rc
  refine ⟨Conveyor.steps_balanced (handler_ledger hmove) h.balanced, ?_⟩
  dsimp only
  generalize doSendQueuedFrames ring s.net i rc = u at hmove
  cases hmove <;> exact h.addresses

theorem thread_numbered {s : Transmission.State n} (h : Numbered s)
    (data : DataContainer) : Numbered { s with net := thread data s.net } := by
  have hhidden : ¬ Owned { data with ownerMayFreeData := false } := nofun
  refine ⟨Conveyor.steps_balanced (asyncSendFrame_ledger _ _) h.balanced, ?_⟩
  unfold thread asyncSendFrame buffersOf
  dsimp only
  split
  · rw [filter_append_hidden _ hhidden]
    exact h.addresses
  · exact h.addresses

theorem sendFrames_numbered {s : Transmission.State n} (h : Numbered s) :
    Numbered (Transmission.sendFrames host sums t s) := by
  unfold Transmission.sendFrames
  split
  · exact ⟨h.balanced, h.addresses⟩
  · exact ⟨h.balanced, h.addresses⟩
  · next frame rest hunsent =>
      split
      · next hroom =>
          refine ⟨Conveyor.steps_balanced (asyncSendFrame_ledger _ _) h.balanced, ?_⟩
          have howned : Owned (Transmission.container s.nextAddress frame) := rfl
          have haddresses := h.addresses
          unfold buffersOf at haddresses ⊢
          dsimp only
          rw [asyncSendFrame, if_pos hroom]
          dsimp only
          rw [filter_append_owned _ howned, List.map_append, List.map_append, haddresses,
            List.range_succ]
          rfl
      · exact h

theorem step_numbered (s : Transmission.State n) (a : Action n) (h : Numbered s) :
    Numbered (step host sums t ring block s a) := by
  cases a with
  | thread => exact thread_numbered h _
  | transmission b =>
      show Numbered (Transmission.step host sums t ring s b)
      cases b with
      | handler i rc => exact handler_numbered ring h i rc
      | sender b =>
          unfold Transmission.step
          dsimp only
          split
          · exact sendFrames_numbered host sums t h
          · exact ⟨h.balanced, h.addresses⟩

inductive InUse (u : PFringHandler.State n) (c : DataContainer) : Prop where
  | queued : c ∈ u.asyncSendData -> InUse u c
  | carried (i : Fin n) : (u.handlers i).carried = some c -> InUse u c

structure Disposed (s : Transmission.State n) : Prop where
  placed : (List.range s.nextAddress : Multiset Nat) =
    (buffersOf s.net.asyncSendData).map Buffer.address +
      (∑ i, Phase.buffer (s.net.handlers i)).map Buffer.address +
      s.net.freed.map Buffer.address
  deletedOnce : (s.net.freed.map Buffer.address).Nodup
  notDeleted : forall c, InUse s.net c -> Owned c -> c.data ∉ s.net.freed
  sent : forall buffer, buffer ∈ s.net.freed -> exists c, c.data = buffer ∧ Owned c ∧
    (c ∈ s.net.handed.map Handed.data ∨ c ∈ s.net.rejected)
  allDeleted : Transmission.Settled s ->
    (s.net.freed.map Buffer.address).Perm (List.range s.nextAddress)

end Runs

section Numbered

variable {n : Nat} {s : Transmission.State n}

theorem Numbered.entered_nodup (h : Numbered s) : (ledger s.net).entered.Nodup := by
  refine Multiset.coe_nodup.mpr (List.Nodup.of_map Buffer.address ?_)
  rw [h.addresses]
  exact List.nodup_range

theorem Numbered.placed (h : Numbered s) :
    (List.range s.nextAddress : Multiset Nat) =
      (buffersOf s.net.asyncSendData).map Buffer.address +
        (∑ i, Phase.buffer (s.net.handlers i)).map Buffer.address +
        s.net.freed.map Buffer.address := by
  have hbalanced : (buffersOf s.net.enqueued : Multiset Buffer) =
      buffersOf s.net.asyncSendData + ∑ i, Phase.buffer (s.net.handlers i) +
        ∑ e, (ledger s.net).left e := h.balanced
  have hleft : ∑ e, (ledger s.net).left e = s.net.freed := Fintype.sum_unique _
  rw [hleft] at hbalanced
  have hmap := congrArg (Multiset.map Buffer.address) hbalanced
  rw [Multiset.map_add, Multiset.map_add, Multiset.map_coe, h.addresses] at hmap
  exact hmap

theorem Numbered.deletedOnce (h : Numbered s) :
    (s.net.freed.map Buffer.address).Nodup := by
  have hnodup : (List.range s.nextAddress : Multiset Nat).Nodup :=
    Multiset.coe_nodup.mpr List.nodup_range
  rw [h.placed] at hnodup
  exact Multiset.coe_nodup.mp (Multiset.nodup_add.mp hnodup).right.left

theorem mem_buffer {phase : Phase} {c : DataContainer}
    (h : phase.carried = some c) (howned : Owned c) :
    c.data ∈ Phase.buffer phase := by
  rw [Phase.buffer, h]
  show c.data ∈ bufferOf c
  rw [bufferOf, if_pos howned]
  exact Multiset.mem_singleton_self _

theorem InUse.on_ledger {c : DataContainer} (h : InUse s.net c) (howned : Owned c) :
    c.data ∈ (ledger s.net).waiting ∨ c.data ∈ (ledger s.net).held := by
  cases h with
  | queued hqueue =>
      refine Or.inl (Multiset.mem_coe.mpr (List.mem_map_of_mem ?_))
      exact List.mem_filter.mpr ⟨hqueue, decide_eq_true howned⟩
  | carried i hcarried =>
      exact Or.inr (Multiset.mem_sum.mpr ⟨i, Finset.mem_univ i, mem_buffer hcarried howned⟩)

theorem Numbered.notDeleted (h : Numbered s) {c : DataContainer}
    (huse : InUse s.net c) (howned : Owned c) : c.data ∉ s.net.freed := by
  intro hfreed
  have hleft : c.data ∈ (ledger s.net).left () := hfreed
  rcases h.balanced.not_waiting_or_held h.entered_nodup hleft with ⟨hwaiting, hheld⟩
  rcases huse.on_ledger howned with hin | hin
  · exact hwaiting hin
  · exact hheld hin

theorem carried_of_holding {phase : Phase} {c : DataContainer}
    (h : c ∈ phase.holding) : phase.carried = some c := by
  cases phase with
  | popped data =>
      rw [Multiset.mem_singleton.mp h]
      rfl
  | sending data pkt =>
      rw [Multiset.mem_singleton.mp h]
      rfl
  | idle => cases h
  | sent data bytes => cases h

theorem Numbered.sent (h : Numbered s) (hbalanced : Conveyor.Balanced (view s.net))
    {buffer : Buffer} (hfreed : buffer ∈ s.net.freed) :
    exists c, c.data = buffer ∧ Owned c ∧
      (c ∈ s.net.handed.map Handed.data ∨ c ∈ s.net.rejected) := by
  have hentered : buffer ∈ (ledger s.net).entered :=
    h.balanced.mem_entered_iff.mpr (Or.inr ⟨(), hfreed⟩)
  rcases List.mem_map.mp (Multiset.mem_coe.mp hentered) with ⟨c, hc, rfl⟩
  rcases List.mem_filter.mp hc with ⟨hin, howned⟩
  have howned : Owned c := of_decide_eq_true howned
  have hunused : ¬ InUse s.net c := fun huse => h.notDeleted huse howned hfreed
  refine ⟨c, rfl, howned, ?_⟩
  have hconserved := (balanced_iff s.net).mp hbalanced
  rw [← Multiset.mem_coe, hconserved, Multiset.mem_add, Multiset.mem_add,
    Multiset.mem_add, Multiset.mem_sum] at hin
  rcases hin with (hqueue | ⟨i, _, hholding⟩) | (hhanded | hrejected)
  · exact absurd (InUse.queued hqueue) hunused
  · exact absurd (InUse.carried i (carried_of_holding hholding)) hunused
  · exact Or.inl hhanded
  · exact Or.inr hrejected

theorem Numbered.allDeleted (h : Numbered s) (hsettled : Transmission.Settled s) :
    (s.net.freed.map Buffer.address).Perm (List.range s.nextAddress) := by
  have hheld : ∑ i, Phase.buffer (s.net.handlers i) = 0 :=
    Finset.sum_eq_zero fun i _ => by rw [hsettled.handlers i]; rfl
  have hplaced := h.placed
  rw [hsettled.queue, hheld] at hplaced
  refine Multiset.coe_eq_coe.mp ?_
  rw [hplaced]
  exact (zero_add _).symm

end Numbered

/--
In every interleaving of the thread, L1 and the handlers, each buffer that L1 has
pushed is in exactly one place.  It is deleted after its frame was handed to the
driver or refused, once, and never while a frame with it is in the queue or on its
way.  When nothing is on its way any more, all of them have been deleted.
-/
theorem buffers_disposed {n : Nat} (host : Host) (sums : ChecksumFunctions)
    (t : Templates) (ring : Fin n -> Bool) (block : FreshBlock)
    (as : List (Action n)) :
    Disposed (run (step host sums t ring block) (Transmission.State.initial n) as) := by
  have hnumbered := run_invariant (I := Numbered)
    (step_numbered host sums t ring block)
    (s := Transmission.State.initial n) ⟨initial_ledger_balanced, rfl⟩ as
  have honly := run_onlyRequests host sums t ring block as
  exact ⟨hnumbered.placed, hnumbered.deletedOnce, fun _ => hnumbered.notDeleted,
    fun _ => hnumbered.sent honly.balanced, hnumbered.allDeleted⟩

end Node
end L1
end FarmNetworking
