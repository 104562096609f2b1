import FarmNetworking.Monitoring.NullPointers

/-!
# Pointers to destroyed sockets

An operation that destroys a socket on an error sets its pointer to null.
`shutDown` destroys sockets as well but keeps the pointers, and nothing stops a
caller from using the handler again.  Apart from that, and from the pointer that
`setTimeout` does not test, all pointers that are used are live.
-/

namespace FarmNetworking
namespace Monitoring
namespace IPCHandler

open Foundation Runs
open Socket ZMQHandler

/--
Every pointer is null or live, every call through a pointer has found a live
socket, and no null pointer has been dereferenced.
-/
structure PointersLive (s : State) : Prop where
  pointers : forall slot socket, s.pointer slot = some socket ->
    socket ∈ s.zmq.liveSockets
  uses : forall u, u ∈ s.uses -> u.live = true
  alive : s.crashed = false

/--
`shutDown` has nothing to destroy, and `setTimeout` does not reach a null pointer
of the state receiver.
-/
def SparesPointers (s : State) (op : Operation) : Prop :=
  (op = .shutDown -> forall slot,
    s.pointer slot = none ∨ s.active slot = true) ∧ ¬ op.NullTimeout s

theorem initial_pointersLive : PointersLive State.initial where
  pointers := nofun
  uses := fun _ hu => absurd hu List.not_mem_nil
  alive := rfl

/-!
## Operations with tests
-/

theorem log_live {s : State} (h : PointersLive s) (call : Call) {slot : Slot}
    {socket : SocketId} (hsocket : s.pointer slot = some socket) :
    forall u, u ∈ (s.log call slot socket).uses -> u.live = true := by
  intro u hu
  rcases List.mem_append.mp hu with hold | hnew
  · exact h.uses u hold
  · rw [List.mem_singleton.mp hnew]
    exact decide_eq_true (h.pointers slot socket hsocket)

theorem drop_pointersLive {s : State} (hwell : (view s).WellFormed)
    (h : PointersLive s) (slot : Slot) : PointersLive (s.drop slot) := by
  constructor
  · have hview : (view (s.drop slot)).NullOrLive := by
      rw [drop_view]
      exact Table.release_nullOrLive hwell h.pointers slot
    exact hview
  · unfold State.drop State.destroy
    split
    · exact h.uses
    · next socket hsocket => exact log_live h .destroy hsocket
  · exact (destroy_crashed s slot).trans h.alive

theorem move_pointersLive {flags : Bool} {slot : Slot} {s s' : State}
    (hwell : (view s).WellFormed) (hmove : Move flags slot s s')
    (h : PointersLive s) : PointersLive s' := by
  cases hmove with
  | interrupt stop =>
      cases stop <;> exact ⟨h.pointers, h.uses, h.alive⟩
  | use call other hother =>
      unfold State.use
      split
      · next hnull => exact absurd hnull hother
      · next socket hsocket =>
          exact ⟨h.pointers, log_live h call hsocket, h.alive⟩
  | configure other change =>
      unfold State.configure
      split <;> exact ⟨h.pointers, h.uses, h.alive⟩
  | transmit other message =>
      unfold State.transmit
      split <;> exact ⟨h.pointers, h.uses, h.alive⟩
  | setActive other up hflags => exact ⟨h.pointers, h.uses, h.alive⟩
  | drop => exact drop_pointersLive hwell h slot

theorem moves_pointersLive {flags : Bool} {slot : Slot} {s s' : State}
    (hwell : (view s).WellFormed) (hmoves : Moves flags slot s s')
    (h : PointersLive s) : PointersLive s' := by
  induction hmoves with
  | refl => exact h
  | tail hprior hmove ih =>
      refine move_pointersLive ?_ hmove ih
      rcases moves_view hprior with hview | hview <;> rw [hview]
      · exact hwell
      · exact Table.release_wellFormed hwell slot

theorem generated_pointersLive (g : Guard) {s : State} (h : PointersLive s) :
    PointersLive (g.generated s) := by
  rcases generated_frame g s with ⟨_, hcrashed, huses⟩
  constructor
  · exact (generated_assigns g s).nullOrLive h.pointers
  · rw [huses]
    exact h.uses
  · rw [hcrashed]
    exact h.alive

theorem perform_pointersLive {op : Operation} {g : Guard} {s : State}
    (hg : op.guard = some g) (hwell : (view s).WellFormed)
    (h : PointersLive s) :
    PointersLive (perform s op) <-> ¬ op.NullTimeout s := by
  constructor
  · intro hnext
    exact (perform_noNullCall h.alive).mp hnext.alive
  · intro hnull
    exact moves_pointersLive ((generated_assigns g s).wellFormed hwell)
      (perform_cases hg h.alive hnull) (generated_pointersLive g h)

/-!
## Shutting down
-/

theorem closeAll_of_spared (slots : List Slot) (s : State)
    (h : forall slot, s.pointer slot = none ∨ s.active slot = true) :
    slots.foldl closeInactive s = s := by
  induction slots with
  | nil => rfl
  | cons slot rest ih =>
      have hsame : closeInactive s slot = s := by
        unfold closeInactive State.destroy
        rcases h slot with hnull | hactive
        · simp [hnull]
        · rw [if_pos hactive]
      rw [List.foldl_cons, hsame, ih]

theorem shutDown_pointersLive {s : State} (h : PointersLive s) :
    PointersLive (shutDown s) <->
      forall slot, s.pointer slot = none ∨ s.active slot = true := by
  constructor
  · intro hnext slot
    cases hpointer : s.pointer slot with
    | none => exact Or.inl rfl
    | some socket =>
        right
        by_contra hactive
        have hsame : (shutDown s).pointer slot = some socket := by
          rw [shutDown, (closeAll_frame shutDownOrder s).left]
          exact hpointer
        have hlive := (closeAll_live shutDownOrder s socket).mp
          (hnext.pointers slot socket hsame)
        exact hlive.right slot (mem_shutDownOrder slot)
          (Bool.eq_false_iff.mpr hactive) hpointer
  · intro hspared
    rw [shutDown, closeAll_of_spared shutDownOrder s hspared]
    exact h

/-!
## Runs
-/

theorem step_pointersLive {s : State} (op : Operation)
    (hwell : (view s).WellFormed) (h : PointersLive s) :
    PointersLive (step s op) <-> SparesPointers s op := by
  rw [step_of_not_crashed h.alive]
  cases hg : op.guard with
  | none =>
      have hop := guard_eq_none hg
      subst hop
      refine (shutDown_pointersLive h).trans ?_
      exact ⟨fun hspared => ⟨fun _ => hspared, id⟩, fun hboth => hboth.left rfl⟩
  | some g =>
      refine (perform_pointersLive hg hwell h).trans ?_
      refine ⟨fun hnull => ⟨fun hop => ?_, hnull⟩, And.right⟩
      subst hop
      cases hg

theorem pointers_live_iff (ops : List Operation) :
    Along PointersLive step State.initial ops <->
      StepsMeet SparesPointers step State.initial ops :=
  along_iff_stepsMeet (I := fun s => (view s).WellFormed) step_wellFormed
    (fun _ op hwell h => step_pointersLive op hwell h) initial_wellFormed
    initial_pointersLive ops

/-- An update behind `shutDown` sends on the socket that is closed already. -/
theorem update_after_shutDown :
    ¬ Along PointersLive step State.initial
      [.updateState OFF Calls.succeed .queued, .shutDown,
        .updateState RUNNING Calls.succeed .queued] ∧
    (run step State.initial
      [.updateState OFF Calls.succeed .queued, .shutDown,
        .updateState RUNNING Calls.succeed .queued]).uses.any
      (fun u => u.call = .send ∧ u.slot = .stateSender ∧ ¬ u.live) := by
  have hused : (run step State.initial
      [.updateState OFF Calls.succeed .queued, .shutDown,
        .updateState RUNNING Calls.succeed .queued]).uses.any
      (fun u => u.call = .send ∧ u.slot = .stateSender ∧ ¬ u.live) := by
    decide
  refine ⟨?_, hused⟩
  intro halong
  rcases List.any_eq_true.mp hused with ⟨u, hu, hdead⟩
  exact (of_decide_eq_true hdead).right.right ((along_run halong).uses u hu)

end IPCHandler
end Monitoring
end FarmNetworking
