import FarmNetworking.Monitoring.Operations

/-!
# Operations on the table of pointers

Seen from the table of pointers, an operation with tests is a series of
assignments with at most one release behind it, and `shutDown` is a series of
closes.  That the table is well formed follows for all runs.
-/

namespace FarmNetworking
namespace Monitoring
namespace IPCHandler

open Foundation Runs
open Socket ZMQHandler

/-!
## Operations with tests
-/

theorem nullTimeout_guard {op : Operation} {g : Guard} {s : State}
    (h : op.NullTimeout s) (hg : op.guard = some g) :
    g.slot = .statisticsReceiver ∧ s.pointer g.slot ≠ none := by
  cases op with
  | setTimeout timeout calls first second =>
      cases hg
      exact ⟨rfl, h.right.left⟩
  | _ => exact absurd h id

theorem perform_generated {op : Operation} {g : Guard} {s : State}
    (hg : op.guard = some g) (hcrashed : s.crashed = false) :
    exists t, Moves op.receives g.slot (g.generated s) t ∧
      (perform s op = t ∨ perform s op = { t with crashed := true }) := by
  by_cases hnull : op.NullTimeout s
  · rcases perform_nullTimeout hcrashed hnull with ⟨t, hmoves, hperform⟩
    rcases nullTimeout_guard hnull hg with ⟨hslot, hpointer⟩
    rw [generated_of_not_reconnects fun h => hpointer h.right.right.right,
      hslot]
    exact ⟨t, hmoves.mono _, Or.inr hperform⟩
  · exact ⟨_, perform_cases hg hcrashed hnull, Or.inl rfl⟩

theorem perform_view {op : Operation} {g : Guard} {s : State}
    (hg : op.guard = some g) (hcrashed : s.crashed = false) :
    exists t, Table.Assigns (g.assigned s) (view s) t ∧
      (view (perform s op) = t ∨ view (perform s op) = t.release g.slot) := by
  refine ⟨view (g.generated s), generated_assigns g s, ?_⟩
  rcases perform_generated hg hcrashed with ⟨t, hmoves, heq | heq⟩ <;>
    rw [heq] <;> have hview := moves_view hmoves <;> exact hview

theorem perform_pointer {op : Operation} {g : Guard} {s : State}
    (hg : op.guard = some g) (hcrashed : s.crashed = false) {other : Slot}
    (hne : other ≠ g.slot) :
    (perform s op).pointer other = (g.generated s).pointer other := by
  rcases perform_generated hg hcrashed with ⟨t, hmoves, heq | heq⟩ <;>
    rw [heq] <;> have hsame := moves_pointer_of_ne hmoves hne <;> exact hsame

/-!
## Closing the sockets
-/

theorem closeInactive_frame (s : State) (slot : Slot) :
    (closeInactive s slot).pointer = s.pointer ∧
      (closeInactive s slot).active = s.active ∧
      (closeInactive s slot).crashed = s.crashed := by
  unfold closeInactive
  split
  · exact ⟨rfl, rfl, rfl⟩
  · exact ⟨destroy_pointer s slot, destroy_active s slot,
      destroy_crashed s slot⟩

theorem closeInactive_live (s : State) (slot : Slot) (socket : SocketId) :
    socket ∈ (closeInactive s slot).zmq.liveSockets <->
      socket ∈ s.zmq.liveSockets ∧
        (s.active slot = false -> s.pointer slot ≠ some socket) := by
  unfold closeInactive
  cases hactive : s.active slot with
  | true => simp
  | false =>
      change socket ∈ (view (s.destroy slot)).live <-> _
      rw [destroy_view]
      simp [view, Table.close]

theorem closeInactive_orphan (s : State) (slot : Slot) (socket : SocketId) :
    (view (closeInactive s slot)).Orphan socket <-> (view s).Orphan socket := by
  unfold closeInactive
  split
  · exact Iff.rfl
  · rw [destroy_view]
    exact Table.close_orphan_iff

theorem closeInactive_wellFormed {s : State} (h : (view s).WellFormed)
    (slot : Slot) : (view (closeInactive s slot)).WellFormed := by
  unfold closeInactive
  split
  · exact h
  · rw [destroy_view]
    exact Table.close_wellFormed h slot

section CloseAll

variable (slots : List Slot) (s : State)

theorem closeAll_frame :
    (slots.foldl closeInactive s).pointer = s.pointer ∧
      (slots.foldl closeInactive s).active = s.active ∧
      (slots.foldl closeInactive s).crashed = s.crashed := by
  induction slots generalizing s with
  | nil => exact ⟨rfl, rfl, rfl⟩
  | cons slot rest ih =>
      rcases closeInactive_frame s slot with ⟨hpointer, hactive, hcrashed⟩
      rw [List.foldl_cons, ← hpointer, ← hactive, ← hcrashed]
      exact ih (closeInactive s slot)

theorem closeAll_live (socket : SocketId) :
    socket ∈ (slots.foldl closeInactive s).zmq.liveSockets <->
      socket ∈ s.zmq.liveSockets ∧ forall slot, slot ∈ slots ->
        s.active slot = false -> s.pointer slot ≠ some socket := by
  induction slots generalizing s with
  | nil => simp
  | cons slot rest ih =>
      rcases closeInactive_frame s slot with ⟨hpointer, hactive, _⟩
      rw [List.foldl_cons, ih, closeInactive_live, hpointer, hactive,
        List.forall_mem_cons, and_assoc]

theorem closeAll_orphan (socket : SocketId) :
    (view (slots.foldl closeInactive s)).Orphan socket <->
      (view s).Orphan socket := by
  induction slots generalizing s with
  | nil => exact Iff.rfl
  | cons slot rest ih =>
      rw [List.foldl_cons, ih]
      exact closeInactive_orphan s slot socket

theorem closeAll_wellFormed (h : (view s).WellFormed) :
    (view (slots.foldl closeInactive s)).WellFormed := by
  induction slots generalizing s with
  | nil => exact h
  | cons slot rest ih => exact ih _ (closeInactive_wellFormed h slot)

end CloseAll

theorem mem_shutDownOrder (slot : Slot) : slot ∈ shutDownOrder := by
  cases slot <;> decide

/-!
## Runs
-/

theorem initial_wellFormed : (view State.initial).WellFormed where
  live_issued := nofun
  pointer_issued := nofun
  unique := nofun

theorem guard_eq_none {op : Operation} (h : op.guard = none) :
    op = .shutDown := by
  cases op with
  | shutDown => rfl
  | _ => cases h

theorem step_of_not_crashed {s : State} (h : s.crashed = false)
    (op : Operation) : step s op = perform s op := by
  rw [step, h, if_neg Bool.false_ne_true]

theorem step_of_crashed {s : State} (h : s.crashed = true) (op : Operation) :
    step s op = s := by
  rw [step, if_pos h]

theorem step_cases {P : State -> Prop} {s : State} {op : Operation}
    (hcrashed : s.crashed = true -> P s)
    (hshutDown : s.crashed = false -> P (shutDown s))
    (hperform : forall g, op.guard = some g -> s.crashed = false ->
      P (perform s op)) : P (step s op) := by
  cases h : s.crashed with
  | true =>
      rw [step_of_crashed h]
      exact hcrashed h
  | false =>
      rw [step_of_not_crashed h]
      cases hg : op.guard with
      | none =>
          rw [guard_eq_none hg]
          exact hshutDown h
      | some g => exact hperform g hg h

theorem step_wellFormed (s : State) (op : Operation)
    (h : (view s).WellFormed) : (view (step s op)).WellFormed := by
  apply step_cases (P := fun t => (view t).WellFormed)
  · exact fun _ => h
  · exact fun _ => closeAll_wellFormed shutDownOrder s h
  · intro g hg hcrashed
    rcases perform_view hg hcrashed with ⟨t, hassigns, heq | heq⟩
    · rw [heq]
      exact hassigns.wellFormed h
    · rw [heq]
      exact Table.release_wellFormed (hassigns.wellFormed h) g.slot

theorem run_wellFormed (ops : List Operation) :
    (view (run step State.initial ops)).WellFormed :=
  run_invariant (I := fun s => (view s).WellFormed) step_wellFormed
    initial_wellFormed ops

end IPCHandler
end Monitoring
end FarmNetworking
