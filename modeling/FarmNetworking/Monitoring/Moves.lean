import FarmNetworking.Foundation.Ownership
import FarmNetworking.Monitoring.IPCHandler

/-!
# What an operation can do

Eight of the nine operations have the same shape.  Two tests decide whether the
operation goes on, and the second test may reconnect the role, which creates
sockets and stores them without a look at the pointers.  Everything else is a
sequence of small moves: calls through non-null pointers, and the destruction of
the one socket whose pointer was tested.
-/

namespace FarmNetworking
namespace Monitoring
namespace IPCHandler

open Foundation
open Socket ZMQHandler

/-- The pointers, with the sockets in `allSockets_` as what is live. -/
def view (s : State) : Table Slot SocketId where
  pointer := s.pointer
  live := {socket | socket ∈ s.zmq.liveSockets}
  issued := {socket | socket < s.zmq.nextSocket}

/-!
## Moves
-/

/-- The first index says whether flags may be changed. -/
inductive Move (flags : Bool) (slot : Slot) (s : State) : State -> Prop where
  | interrupt (stop : Bool) : Move flags slot s (s.interrupt stop)
  | use (call : Call) (other : Slot) : s.pointer other ≠ none ->
      Move flags slot s (s.use call other)
  | configure (other : Slot) (change : SocketState -> SocketState) :
      Move flags slot s (s.configure other change)
  | transmit (other : Slot) (message : List UInt8) :
      Move flags slot s (s.transmit other message)
  | setActive (other : Slot) (up : Bool) : flags = true ->
      Move flags slot s (s.setActive other up)
  | drop : Move flags slot s (s.drop slot)

def Moves (flags : Bool) (slot : Slot) : State -> State -> Prop :=
  Relation.ReflTransGen (Move flags slot)

theorem Move.single {flags : Bool} {slot : Slot} {s s' : State}
    (h : Move flags slot s s') : Moves flags slot s s' :=
  Relation.ReflTransGen.single h

theorem Moves.mono {slot : Slot} {s s' : State} (h : Moves false slot s s')
    (flags : Bool) : Moves flags slot s s' := by
  refine Relation.ReflTransGen.mono (fun a b hmove => ?_) _ _ h
  cases hmove with
  | interrupt stop => exact Move.interrupt stop
  | use call other hother => exact Move.use call other hother
  | configure other change => exact Move.configure other change
  | transmit other message => exact Move.transmit other message
  | setActive other up hflags => cases hflags
  | drop => exact Move.drop

/-- The moves that need no other pointer than the tested one. -/
inductive Act (flags : Bool) (slot : Slot) (s : State) : State -> Prop where
  | use (call : Call) : s.pointer slot ≠ none ->
      Act flags slot s (s.use call slot)
  | transmit (message : List UInt8) : Act flags slot s (s.transmit slot message)
  | setActive (up : Bool) : flags = true ->
      Act flags slot s (s.setActive slot up)
  | drop : Act flags slot s (s.drop slot)

def Acts (flags : Bool) (slot : Slot) : State -> State -> Prop :=
  Relation.ReflTransGen (Act flags slot)

theorem Act.single {flags : Bool} {slot : Slot} {s s' : State}
    (h : Act flags slot s s') : Acts flags slot s s' :=
  Relation.ReflTransGen.single h

theorem Acts.moves {flags : Bool} {slot : Slot} {s s' : State}
    (h : Acts flags slot s s') : Moves flags slot s s' := by
  refine Relation.ReflTransGen.mono (fun a b hact => ?_) _ _ h
  cases hact with
  | use call hpointer => exact Move.use call slot hpointer
  | transmit message => exact Move.transmit slot message
  | setActive up hflags => exact Move.setActive slot up hflags
  | drop => exact Move.drop

/-!
## The fields behind a move
-/

@[simp] theorem interrupt_false (s : State) : s.interrupt false = s := rfl

@[simp] theorem interrupt_pointer (s : State) (stop : Bool) :
    (s.interrupt stop).pointer = s.pointer := by
  cases stop <;> rfl

@[simp] theorem interrupt_crashed (s : State) (stop : Bool) :
    (s.interrupt stop).crashed = s.crashed := by
  cases stop <;> rfl

@[simp] theorem interrupt_active (s : State) (stop : Bool) :
    (s.interrupt stop).active = s.active := by
  cases stop <;> rfl

@[simp] theorem use_zmq (s : State) (call : Call) (slot : Slot) :
    (s.use call slot).zmq = s.zmq := by
  unfold State.use
  split <;> rfl

@[simp] theorem use_pointer (s : State) (call : Call) (slot : Slot) :
    (s.use call slot).pointer = s.pointer := by
  unfold State.use
  split <;> rfl

@[simp] theorem use_active (s : State) (call : Call) (slot : Slot) :
    (s.use call slot).active = s.active := by
  unfold State.use
  split <;> rfl

theorem use_null {s : State} {call : Call} {slot : Slot}
    (h : s.pointer slot = none) :
    s.use call slot = { s with crashed := true } := by
  rw [State.use, h]

theorem use_crashed {s : State} {slot : Slot} (call : Call)
    (h : s.pointer slot ≠ none) : (s.use call slot).crashed = s.crashed := by
  unfold State.use
  split
  · next hnull => exact absurd hnull h
  · rfl

@[simp] theorem configure_pointer (s : State) (slot : Slot)
    (change : SocketState -> SocketState) :
    (s.configure slot change).pointer = s.pointer := by
  unfold State.configure
  split <;> rfl

@[simp] theorem configure_crashed (s : State) (slot : Slot)
    (change : SocketState -> SocketState) :
    (s.configure slot change).crashed = s.crashed := by
  unfold State.configure
  split <;> rfl

@[simp] theorem configure_active (s : State) (slot : Slot)
    (change : SocketState -> SocketState) :
    (s.configure slot change).active = s.active := by
  unfold State.configure
  split <;> rfl

@[simp] theorem configure_uses (s : State) (slot : Slot)
    (change : SocketState -> SocketState) :
    (s.configure slot change).uses = s.uses := by
  unfold State.configure
  split <;> rfl

@[simp] theorem configure_allSockets (s : State) (slot : Slot)
    (change : SocketState -> SocketState) :
    (s.configure slot change).zmq.allSockets = s.zmq.allSockets := by
  unfold State.configure
  split <;> rfl

@[simp] theorem transmit_crashed (s : State) (slot : Slot)
    (message : List UInt8) :
    (s.transmit slot message).crashed = s.crashed := by
  unfold State.transmit
  split <;> rfl

@[simp] theorem transmit_active (s : State) (slot : Slot)
    (message : List UInt8) :
    (s.transmit slot message).active = s.active := by
  unfold State.transmit
  split <;> rfl

@[simp] theorem setActive_pointer (s : State) (slot : Slot) (up : Bool) :
    (s.setActive slot up).pointer = s.pointer := rfl

@[simp] theorem setActive_crashed (s : State) (slot : Slot) (up : Bool) :
    (s.setActive slot up).crashed = s.crashed := rfl

@[simp] theorem destroy_crashed (s : State) (slot : Slot) :
    (s.destroy slot).crashed = s.crashed := by
  unfold State.destroy
  split <;> rfl

@[simp] theorem destroy_pointer (s : State) (slot : Slot) :
    (s.destroy slot).pointer = s.pointer := by
  unfold State.destroy
  split <;> rfl

@[simp] theorem destroy_active (s : State) (slot : Slot) :
    (s.destroy slot).active = s.active := by
  unfold State.destroy
  split <;> rfl

/-!
## Moves on the table of pointers
-/

theorem destroy_view (s : State) (slot : Slot) :
    view (s.destroy slot) = (view s).close slot := by
  unfold State.destroy
  split
  · next hnull => simp [Table.close, view, hnull]
  · next socket hsocket =>
      have hlive : forall other,
          other ∈ (DestroySocket s.zmq (some socket)).liveSockets <->
            other ∈ s.zmq.liveSockets ∧ s.pointer slot ≠ some other := by
        intro other
        rw [hsocket]
        exact mem_liveSockets_DestroySocket
      simp only [Table.close, view, State.log, hlive]
      rfl

theorem drop_view (s : State) (slot : Slot) :
    view (s.drop slot) = (view s).release slot := by
  have hview := destroy_view s slot
  change { view (s.destroy slot) with
    pointer := Function.update s.pointer slot none } = _
  rw [hview]
  rfl

@[simp] theorem interrupt_view (s : State) (stop : Bool) :
    view (s.interrupt stop) = view s := by
  cases stop <;> rfl

@[simp] theorem use_view (s : State) (call : Call) (slot : Slot) :
    view (s.use call slot) = view s := by
  unfold State.use
  split <;> rfl

@[simp] theorem configure_view (s : State) (slot : Slot)
    (change : SocketState -> SocketState) :
    view (s.configure slot change) = view s := by
  unfold State.configure
  split <;> rfl

@[simp] theorem transmit_view (s : State) (slot : Slot)
    (message : List UInt8) : view (s.transmit slot message) = view s := by
  unfold State.transmit
  split <;> rfl

theorem move_view {flags : Bool} {slot : Slot} {s s' : State}
    (hmove : Move flags slot s s') :
    view s' = view s ∨ view s' = (view s).release slot := by
  cases hmove with
  | interrupt stop => exact Or.inl (interrupt_view s stop)
  | use call other hother => exact Or.inl (use_view s call other)
  | configure other change => exact Or.inl (configure_view s other change)
  | transmit other message => exact Or.inl (transmit_view s other message)
  | setActive other up hflags => exact Or.inl rfl
  | drop => exact Or.inr (drop_view s slot)

theorem moves_view {flags : Bool} {slot : Slot} {s s' : State}
    (hmoves : Moves flags slot s s') :
    view s' = view s ∨ view s' = (view s).release slot := by
  induction hmoves with
  | refl => exact Or.inl rfl
  | tail _ hmove ih =>
      rcases move_view hmove with hlast | hlast <;> rw [hlast] <;>
        rcases ih with h | h <;> simp [h]

theorem moves_crashed {flags : Bool} {slot : Slot} {s s' : State}
    (hmoves : Moves flags slot s s') : s'.crashed = s.crashed := by
  induction hmoves with
  | refl => rfl
  | tail _ hmove ih =>
      rw [← ih]
      cases hmove with
      | interrupt stop => exact interrupt_crashed _ stop
      | use call other hother => exact use_crashed call hother
      | configure other change => exact configure_crashed _ other change
      | transmit other message => exact transmit_crashed _ other message
      | setActive other up hflags => rfl
      | drop => exact destroy_crashed _ slot

theorem moves_active {slot : Slot} {s s' : State}
    (hmoves : Moves false slot s s') : s'.active = s.active := by
  induction hmoves with
  | refl => rfl
  | tail _ hmove ih =>
      rw [← ih]
      cases hmove with
      | interrupt stop => exact interrupt_active _ stop
      | use call other hother => exact use_active _ call other
      | configure other change => exact configure_active _ other change
      | transmit other message => exact transmit_active _ other message
      | setActive other up hflags => cases hflags
      | drop => exact destroy_active _ slot

theorem moves_pointer_of_ne {flags : Bool} {slot other : Slot} {s s' : State}
    (hmoves : Moves flags slot s s') (hne : other ≠ slot) :
    s'.pointer other = s.pointer other := by
  rcases moves_view hmoves with h | h
  · exact congrArg (fun t => t.pointer other) h
  · change (view s').pointer other = _
    rw [h]
    exact Function.update_of_ne hne ..

end IPCHandler
end Monitoring
end FarmNetworking
