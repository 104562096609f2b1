import FarmNetworking.Monitoring.Reconnects

/-!
# The operations behind their tests

An operation that fails its tests returns at once.  One that passes them makes
moves only.  The exception is `setTimeout`, which tests one of the two pointers
it dereferences.
-/

namespace FarmNetworking
namespace Monitoring
namespace IPCHandler

open Foundation
open Socket ZMQHandler

/--
`setTimeout` gets through its first option and then dereferences the null pointer
of the state receiver.
-/
def Operation.NullTimeout (s : State) : Operation -> Prop
  | .setTimeout _ _ first _ => first = none ∧
      s.pointer .statisticsReceiver ≠ none ∧ s.pointer .stateReceiver = none
  | _ => False

instance Operation.NullTimeout.decidable (s : State) (op : Operation) :
    Decidable (op.NullTimeout s) := by
  unfold Operation.NullTimeout
  split <;> infer_instance

def Operation.receives : Operation -> Bool
  | .getNextCommand _ _ => true
  | .tryToReceiveStatistics _ _ => true
  | .tryToReceiveState _ _ => true
  | _ => false

theorem perform_blocked {op : Operation} {g : Guard} {s t : State}
    (hg : op.guard = some g) (h : g.enter s = (false, t)) :
    perform s op = t := by
  cases op with
  | updateState newState calls outcome =>
      cases hg
      change enter connectClient .stateSender calls s = _ at h
      simp only [perform, updateState, h]
  | sendErrorMessage message calls allocation outcome =>
      cases hg
      change enter connectClient .statisticsSender calls s = _ at h
      simp only [perform, sendErrorMessage, sendStatistics, h]
  | sendStatistics name values calls allocation outcome =>
      cases hg
      change enter connectClient .statisticsSender calls s = _ at h
      simp only [perform, sendStatistics, h]
  | sendCommand command calls connected outcome =>
      cases hg
      change enter bindServer .commandSender calls s = _ at h
      simp only [perform, sendCommand, h]
  | getNextCommand calls outcome =>
      cases hg
      change enter connectClient .commandReceiver calls s = _ at h
      simp only [perform, getNextCommand, h]
  | tryToReceiveStatistics calls outcome =>
      cases hg
      change enter bindServer .statisticsReceiver calls s = _ at h
      simp only [perform, tryToReceiveStatistics, h]
  | tryToReceiveState calls outcome =>
      cases hg
      change enter bindServer .stateReceiver calls s = _ at h
      simp only [perform, tryToReceiveState, h]
  | setTimeout timeout calls first second =>
      cases hg
      change ensure bindServer .statisticsReceiver calls s = _ at h
      simp only [perform, setTimeout, h]
  | shutDown => cases hg

/-!
## Single operations
-/

section Rest

variable {s t : State}

theorem failed_acts (flags : Bool) (s : State) (slot : Slot) (e : Errno) :
    Acts flags slot s (s.failed slot e) := by
  unfold State.failed
  split
  · exact Act.single Act.drop
  · exact Relation.ReflTransGen.refl

theorem updateState_acts {newState : STATE} {calls : Calls}
    {outcome : SendOutcome}
    (h : enter connectClient .stateSender calls s = (true, t))
    (hcrashed : t.crashed = false) (hpointer : t.pointer .stateSender ≠ none) :
    Acts false .stateSender t (updateState s newState calls outcome) := by
  have huse : Acts false .stateSender t (t.use .send .stateSender) :=
    Act.single (Act.use .send hpointer)
  have hused := (use_crashed .send hpointer).trans hcrashed
  simp only [updateState, h, hused]
  cases outcome with
  | queued => exact huse.tail (Act.transmit _)
  | again => exact huse
  | error e => exact huse

theorem sendStatistics_acts {name values : List UInt8} {calls : Calls}
    {allocation : Option Errno} {outcome : SendOutcome}
    (h : enter connectClient .statisticsSender calls s = (true, t))
    (hpointer : t.pointer .statisticsSender ≠ none) :
    Acts false .statisticsSender t
      (sendStatistics s name values calls allocation outcome) := by
  have huse : Acts false .statisticsSender t (t.use .send .statisticsSender) :=
    Act.single (Act.use .send hpointer)
  simp only [sendStatistics, h]
  split
  · exact Relation.ReflTransGen.refl
  · cases outcome with
    | queued => exact huse.tail (Act.transmit _)
    | again => exact huse
    | error e => exact huse

theorem sendCommand_acts {command : List UInt8} {calls : Calls}
    {connected : Bool} {outcome : SendOutcome}
    (h : enter bindServer .commandSender calls s = (true, t))
    (hpointer : t.pointer .commandSender ≠ none) :
    Acts false .commandSender t
      (sendCommand s command calls connected outcome) := by
  have huse : Acts false .commandSender t (t.use .send .commandSender) :=
    Act.single (Act.use .send hpointer)
  simp only [sendCommand, h]
  split
  · exact Relation.ReflTransGen.refl
  · cases outcome with
    | queued => exact huse.tail (Act.transmit _)
    | again => exact huse
    | error e => exact huse.trans (failed_acts _ _ _ e)

theorem recv_acts {slot : Slot} (hpointer : t.pointer slot ≠ none) :
    Acts true slot t ((t.setActive slot true).use .recv slot) := by
  have hup : Acts true slot t (t.setActive slot true) :=
    Act.single (Act.setActive true rfl)
  exact hup.tail (Act.use .recv hpointer)

theorem recv_crashed {slot : Slot} (hcrashed : t.crashed = false)
    (hpointer : t.pointer slot ≠ none) :
    ((t.setActive slot true).use .recv slot).crashed = false :=
  (use_crashed (s := t.setActive slot true) .recv hpointer).trans hcrashed

theorem getNextCommand_acts {calls : Calls} {outcome : RecvOutcome}
    (h : enter connectClient .commandReceiver calls s = (true, t))
    (hcrashed : t.crashed = false)
    (hpointer : t.pointer .commandReceiver ≠ none) :
    Acts true .commandReceiver t (getNextCommand s calls outcome).1 := by
  have hrecv := recv_acts hpointer
  simp only [getNextCommand, h, recv_crashed hcrashed hpointer]
  cases outcome with
  | message data behind => exact hrecv.tail (Act.setActive _ rfl)
  | again => exact hrecv.tail (Act.setActive _ rfl)
  | error e => exact hrecv.trans (failed_acts _ _ _ e)

theorem tryToReceiveStatistics_acts {calls : Calls} {outcome : RecvOutcome}
    (h : enter bindServer .statisticsReceiver calls s = (true, t))
    (hcrashed : t.crashed = false)
    (hpointer : t.pointer .statisticsReceiver ≠ none) :
    Acts true .statisticsReceiver t (tryToReceiveStatistics s calls outcome).1 := by
  have hrecv := recv_acts hpointer
  simp only [tryToReceiveStatistics, h, recv_crashed hcrashed hpointer]
  cases outcome with
  | message data behind => exact hrecv
  | again => exact hrecv.tail (Act.setActive _ rfl)
  | error e => exact hrecv.trans (failed_acts _ _ _ e)

theorem tryToReceiveState_acts {calls : Calls} {outcome : RecvOutcome}
    (h : enter bindServer .stateReceiver calls s = (true, t))
    (hcrashed : t.crashed = false)
    (hpointer : t.pointer .stateReceiver ≠ none) :
    Acts true .stateReceiver t (tryToReceiveState s calls outcome).1 := by
  have hrecv := recv_acts hpointer
  simp only [tryToReceiveState, h, recv_crashed hcrashed hpointer]
  cases outcome with
  | message data behind => exact hrecv
  | again => exact hrecv.tail (Act.setActive _ rfl)
  | error e => exact hrecv.trans (failed_acts _ _ _ e)

theorem setTimeout_moves {timeout : Int} {calls : Calls}
    {first second : Option Errno}
    (h : ensure bindServer .statisticsReceiver calls s = (true, t))
    (hcrashed : t.crashed = false)
    (hpointer : t.pointer .statisticsReceiver ≠ none)
    (hstate : first = none -> t.pointer .stateReceiver ≠ none) :
    Moves false .statisticsReceiver t (setTimeout s timeout calls first second) := by
  have huse : Moves false .statisticsReceiver t
      (t.use .setsockopt .statisticsReceiver) :=
    Move.single (Move.use .setsockopt _ hpointer)
  have hused := (use_crashed .setsockopt hpointer).trans hcrashed
  simp only [setTimeout, h, hused, Bool.false_or]
  cases first with
  | some e => exact huse
  | none =>
      have hfirst := huse.tail
        (Move.configure .statisticsReceiver (setRcvtimeo timeout))
      have hother : ((t.use .setsockopt .statisticsReceiver).configure
          .statisticsReceiver (setRcvtimeo timeout)).pointer .stateReceiver ≠
          none := by
        rw [configure_pointer, use_pointer]
        exact hstate rfl
      have hsecond := hfirst.tail (Move.use .setsockopt _ hother)
      rw [Option.isSome_none, if_neg Bool.false_ne_true]
      split
      · exact hsecond
      · exact hsecond.tail (Move.configure _ _)

end Rest

/-!
## All operations with tests
-/

theorem entry_tested {op : Operation} {g : Guard} {s t : State}
    (hg : op.guard = some g) (hentry : Entry g s (true, t)) :
    t.pointer g.slot ≠ none := by
  rcases entry_pointer hentry with ⟨hne, heq⟩ | hall
  · rw [heq]
    exact hne
  · rcases guard_mem hg with ⟨c, hc, hslot⟩
    rw [← hslot]
    exact hall c hc

theorem enter_passed {op : Operation} {g : Guard} {s t : State}
    (hg : op.guard = some g) (hcrashed : s.crashed = false)
    (h : g.enter s = (true, t)) :
    t.crashed = false ∧ t.pointer g.slot ≠ none := by
  have hentry := enter_entry (g := g) hcrashed
  rw [h] at hentry
  exact ⟨entry_crashed hentry hcrashed, entry_tested hg hentry⟩

theorem perform_acts {op : Operation} {g : Guard} {s t : State}
    (hg : op.guard = some g) (htested : g.tested = true)
    (hcrashed : s.crashed = false) (h : g.enter s = (true, t)) :
    Acts op.receives g.slot t (perform s op) := by
  rcases enter_passed hg hcrashed h with ⟨halive, hpointer⟩
  cases op with
  | updateState newState calls outcome =>
      cases hg
      exact updateState_acts h halive hpointer
  | sendErrorMessage message calls allocation outcome =>
      cases hg
      exact sendStatistics_acts h hpointer
  | sendStatistics name values calls allocation outcome =>
      cases hg
      exact sendStatistics_acts h hpointer
  | sendCommand command calls connected outcome =>
      cases hg
      exact sendCommand_acts h hpointer
  | getNextCommand calls outcome =>
      cases hg
      exact getNextCommand_acts h halive hpointer
  | tryToReceiveStatistics calls outcome =>
      cases hg
      exact tryToReceiveStatistics_acts h halive hpointer
  | tryToReceiveState calls outcome =>
      cases hg
      exact tryToReceiveState_acts h halive hpointer
  | setTimeout timeout calls first second =>
      cases hg
      cases htested
  | shutDown => cases hg

theorem perform_moves {op : Operation} {g : Guard} {s t : State}
    (hg : op.guard = some g) (hcrashed : s.crashed = false)
    (h : g.enter s = (true, t)) (hnull : ¬ op.NullTimeout s) :
    Moves op.receives g.slot t (perform s op) := by
  cases htested : g.tested with
  | true => exact (perform_acts hg htested hcrashed h).moves
  | false =>
      cases op with
      | setTimeout timeout calls first second =>
          rcases enter_passed hg hcrashed h with ⟨halive, hpointer⟩
          have hentry := enter_entry (g := g) hcrashed
          rw [h] at hentry
          cases hg
          refine setTimeout_moves h halive hpointer ?_
          intro hfirst
          rcases entry_pointer hentry with ⟨hne, heq⟩ | hall
          · rw [heq]
            exact fun hstate => hnull ⟨hfirst, hne, hstate⟩
          · exact hall _ (List.mem_cons_self ..)
      | shutDown => cases hg
      | _ =>
          cases hg
          cases htested

/--
The inversion of an operation: it assigns the pointers that its tests let it
assign, and from there on it moves.
-/
theorem perform_cases {op : Operation} {g : Guard} {s : State}
    (hg : op.guard = some g) (hcrashed : s.crashed = false)
    (hnull : ¬ op.NullTimeout s) :
    Moves op.receives g.slot (g.generated s) (perform s op) := by
  have hmoves := entry_moves (enter_entry (g := g) hcrashed)
  cases henter : g.enter s with
  | mk passed t =>
      rw [henter] at hmoves
      cases passed with
      | false =>
          rw [perform_blocked hg henter]
          exact hmoves.mono _
      | true =>
          exact (hmoves.mono _).trans (perform_moves hg hcrashed henter hnull)

/-- The dereference of the null pointer is the only way to crash. -/
theorem perform_nullTimeout {op : Operation} {s : State}
    (hcrashed : s.crashed = false) (h : op.NullTimeout s) :
    exists t, Moves false .statisticsReceiver s t ∧
      perform s op = { t with crashed := true } := by
  cases op with
  | setTimeout timeout calls first second =>
      rcases h with ⟨hfirst, hpointer, hstate⟩
      have hensure : ensure bindServer .statisticsReceiver calls s =
          (true, s) := by
        unfold ensure
        split
        · rfl
        · next hnone => exact absurd hnone hpointer
      have hused := (use_crashed .setsockopt hpointer).trans hcrashed
      have huse : Moves false .statisticsReceiver s
          (s.use .setsockopt .statisticsReceiver) :=
        Move.single (Move.use .setsockopt _ hpointer)
      refine ⟨_, huse.tail
        (Move.configure .statisticsReceiver (setRcvtimeo timeout)), ?_⟩
      have hnull : ((s.use .setsockopt .statisticsReceiver).configure
          .statisticsReceiver (setRcvtimeo timeout)).pointer .stateReceiver =
          none := by
        rw [configure_pointer, use_pointer]
        exact hstate
      simp only [perform, setTimeout, hensure, hused, hfirst, use_null hnull]
      rfl
  | _ => exact absurd h id

end IPCHandler
end Monitoring
end FarmNetworking
