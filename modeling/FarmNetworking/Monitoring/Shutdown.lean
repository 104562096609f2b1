import FarmNetworking.Foundation.Runs
import FarmNetworking.Monitoring.ActiveFlags

/-!
# Shutting down beside running operations

A process ends with `ZMQHandler::Stop`, `IPCHandler::shutDown` and
`ZMQHandler::shutdown`, one after the other in one thread, while other threads may
be inside of the operations.  Each of the six sockets has a thread of its own.
A step is a single test, an assignment to a flag or to a pointer, a call of the
library or of `DestroySocket`, or the return of such a call.

The destructor of the context makes every pending and later call on a socket
throw, and it waits until all sockets have been closed.  Before that a call
delivers, times out or is interrupted, as the library has no other errors for
these sockets.  Operations that connect first or return before their call are
left out.
-/

namespace FarmNetworking
namespace Monitoring
namespace IPCHandler
namespace Shutdown

open Foundation ByteString Runs
open Socket ZMQHandler

def receives : Slot -> Bool
  | .stateReceiver | .statisticsReceiver | .commandReceiver => true
  | .stateSender | .statisticsSender | .commandSender => false

/-- The handlers of the other two only print the error. -/
def destroysOnError : Slot -> Bool
  | .stateSender | .statisticsSender => false
  | .commandSender | .stateReceiver | .statisticsReceiver | .commandReceiver => true

/-- `getNextCommand` lowers its flag behind a message as well. -/
def lowersOnMessage : Slot -> Bool
  | .commandReceiver => true
  | .stateSender | .statisticsSender | .commandSender | .stateReceiver
  | .statisticsReceiver => false

inductive Pc where
  | outside
  /-- Behind the test of `IsRunning`. -/
  | running
  /-- Behind the test of the pointer. -/
  | tested
  /-- Behind the assignment that raises the flag. -/
  | raised
  /-- Inside of `send` or `recv`. -/
  | calling
  /-- At the assignment that lowers the flag. -/
  | lowering
  /-- At `DestroySocket` in the exception handler. -/
  | destroying
  /-- At the assignment of the null pointer behind it. -/
  | clearing
  deriving DecidableEq

inductive Terminator where
  | idle
  /-- In `IPCHandler::shutDown`, at the test of a flag. -/
  | testing (rest : List Slot)
  /-- At `DestroySocket` behind the test. -/
  | closing (slot : Slot) (rest : List Slot)
  /-- In the destructor of the context. -/
  | terminating
  | finished
  deriving DecidableEq

def Terminator.ended : Terminator -> Bool
  | .terminating | .finished => true
  | .idle | .testing _ | .closing _ _ => false

structure System where
  ipc : State
  pc : Slot -> Pc
  terminator : Terminator

inductive Outcome where
  | message (data : List UInt8)
  | again
  | interrupted
  deriving DecidableEq

/-- A call that is not in the list goes on waiting. -/
inductive Label where
  | user (slot : Slot) (outcome : Outcome)
  | terminator
  deriving DecidableEq

/-!
## The steps
-/

def System.goto (x : System) (slot : Slot) (pc : Pc) : System :=
  { x with pc := Function.update x.pc slot pc }

def System.return (x : System) (slot : Slot) : Outcome -> System
  | .message data =>
      if lowersOnMessage slot then x.goto slot .lowering
      else if receives slot then x.goto slot .outside
      else { x.goto slot .outside with ipc := x.ipc.transmit slot data }
  | .again =>
      if receives slot then x.goto slot .lowering else x.goto slot .outside
  | .interrupted => x.goto slot .outside

def System.throw (x : System) (slot : Slot) : System :=
  if destroysOnError slot then x.goto slot .destroying else x.goto slot .outside

/-- An operation whose pointer is null would connect first and is left out. -/
def user (x : System) (slot : Slot) (outcome : Outcome) : System :=
  match x.pc slot with
  | .outside =>
      if x.ipc.zmq.running ∧ x.ipc.pointer slot ≠ none then x.goto slot .running
      else x
  | .running => if x.ipc.pointer slot ≠ none then x.goto slot .tested else x
  | .tested =>
      if receives slot then
        { x.goto slot .raised with ipc := x.ipc.setActive slot true }
      else { x.goto slot .calling with ipc := x.ipc.use .send slot }
  | .raised => { x.goto slot .calling with ipc := x.ipc.use .recv slot }
  | .calling =>
      if x.terminator.ended then x.throw slot else x.return slot outcome
  | .lowering => { x.goto slot .outside with ipc := x.ipc.setActive slot false }
  | .destroying => { x.goto slot .clearing with ipc := x.ipc.destroy slot }
  | .clearing =>
      { x.goto slot .outside with
        ipc := { x.ipc with
          pointer := Function.update x.ipc.pointer slot none } }

def terminate (x : System) : System :=
  match x.terminator with
  | .idle =>
      { x with
        ipc := { x.ipc with zmq := Stop x.ipc.zmq }
        terminator := .testing shutDownOrder }
  | .testing [] => { x with terminator := .terminating }
  | .testing (slot :: rest) =>
      if x.ipc.active slot then { x with terminator := .testing rest }
      else { x with terminator := .closing slot rest }
  | .closing slot rest =>
      { x with ipc := x.ipc.destroy slot, terminator := .testing rest }
  | .terminating =>
      if x.ipc.zmq.openSockets = [] then { x with terminator := .finished } else x
  | .finished => x

def step (x : System) : Label -> System
  | .user slot outcome => user x slot outcome
  | .terminator => terminate x

/-!
## Steps in a row

An operation whose steps nothing interrupts is the operation as it was modelled
without threads, and the same goes for `shutDown`.
-/

def cutSend (data : List UInt8) : SendOutcome -> Option Outcome
  | .queued => some (.message data)
  | .again => some .again
  | .error e => if e = EINTR then some .interrupted else none

def cutRecv : RecvOutcome -> Option Outcome
  | .message data _ => some (.message data)
  | .again => some .again
  | .error e => if e = EINTR then some .interrupted else none

/-- The thread and the outcome of an operation that gets as far as its call. -/
def cut : Operation -> Option (Slot × Outcome)
  | .updateState newState _ outcome =>
      (cutSend (leBytes 4 newState.toNat) outcome).map
        (Prod.mk .stateSender)
  | .sendStatistics name values _ allocation outcome =>
      if name.isEmpty || values.isEmpty || allocation.isSome then none
      else (cutSend (name ++ 58 :: values) outcome).map
        (Prod.mk .statisticsSender)
  | .sendCommand command _ connected outcome =>
      if command.isEmpty || !connected then none
      else (cutSend command outcome).map (Prod.mk .commandSender)
  | .getNextCommand _ outcome =>
      (cutRecv outcome).map (Prod.mk .commandReceiver)
  | .tryToReceiveStatistics _ outcome =>
      (cutRecv outcome).map (Prod.mk .statisticsReceiver)
  | .tryToReceiveState _ outcome =>
      (cutRecv outcome).map (Prod.mk .stateReceiver)
  | .sendErrorMessage .. | .setTimeout .. | .shutDown => none

def beginCall (s : State) (slot : Slot) : State :=
  if receives slot then (s.setActive slot true).use .recv slot
  else s.use .send slot

def called (s : State) (slot : Slot) : Outcome -> State
  | .message data =>
      if lowersOnMessage slot then (beginCall s slot).setActive slot false
      else if receives slot then beginCall s slot
      else (beginCall s slot).transmit slot data
  | .again =>
      if receives slot then (beginCall s slot).setActive slot false
      else beginCall s slot
  | .interrupted => beginCall s slot

section Pieces

variable {x : System} {slot : Slot} {outcome : Outcome}

theorem goto_pc (x : System) (slot : Slot) (s : State) (pc : Pc) :
    ({ x.goto slot pc with ipc := s } : System).pc slot = pc :=
  Function.update_self ..

theorem goto_goto (s s' : State) (pc next : Pc) :
    ({ ({ x.goto slot pc with ipc := s } : System).goto slot next with
      ipc := s' } : System) = { x.goto slot next with ipc := s' } := by
  simp only [System.goto, Function.update_idem]

theorem goto_outside (h : x.pc slot = .outside) (s s' : State) (pc : Pc) :
    ({ ({ x.goto slot pc with ipc := s } : System).goto slot .outside with
      ipc := s' } : System) = { x with ipc := s' } := by
  rw [goto_goto]
  simp only [System.goto]
  rw [← h, Function.update_eq_self]

theorem user_outside (h : x.pc slot = .outside)
    (hrunning : x.ipc.zmq.running = true) (hpointer : x.ipc.pointer slot ≠ none) :
    user x slot outcome = { x.goto slot .running with ipc := x.ipc } := by
  rw [user, h]
  exact if_pos ⟨hrunning, hpointer⟩

theorem user_running (h : x.pc slot = .running)
    (hpointer : x.ipc.pointer slot ≠ none) :
    user x slot outcome = { x.goto slot .tested with ipc := x.ipc } := by
  rw [user, h]
  exact if_pos hpointer

theorem run_beginCall (x : System) (slot : Slot) (s : State) (outcome : Outcome) :
    exists k, run step { x.goto slot .tested with ipc := s }
        (List.replicate k (.user slot outcome)) =
      { x.goto slot .calling with ipc := beginCall s slot } := by
  have htested : user { x.goto slot .tested with ipc := s } slot outcome =
      if receives slot then
        { x.goto slot .raised with ipc := s.setActive slot true }
      else { x.goto slot .calling with ipc := s.use .send slot } := by
    rw [user, goto_pc]
    dsimp only
    rw [goto_goto, goto_goto]
  unfold beginCall
  cases hreceives : receives slot with
  | false =>
      rw [hreceives] at htested
      exact ⟨1, htested⟩
  | true =>
      rw [hreceives] at htested
      refine ⟨2, ?_⟩
      change user (user _ slot outcome) slot outcome = _
      rw [htested, if_pos rfl, user, goto_pc]
      exact goto_goto ..

theorem user_calling (h : x.pc slot = .calling)
    (hended : x.terminator.ended = false) :
    user x slot outcome = x.return slot outcome := by
  rw [user, h]
  exact if_neg (Bool.eq_false_iff.mp hended)

theorem user_lowering (h : x.pc slot = .lowering) :
    user x slot outcome =
      { x.goto slot .outside with ipc := x.ipc.setActive slot false } := by
  rw [user, h]

theorem return_called (hended : x.terminator.ended = false)
    (hpc : x.pc slot = .outside) (s : State) (outcome : Outcome) :
    exists k, run step { x.goto slot .calling with ipc := beginCall s slot }
        (List.replicate (k + 1) (.user slot outcome)) =
      { x with ipc := called s slot outcome } := by
  have hreturn : user _ slot outcome = _ :=
    user_calling (goto_pc x slot (beginCall s slot) .calling) hended
  have hlower : user { x.goto slot .lowering with ipc := beginCall s slot } slot
      outcome = { x with ipc := (beginCall s slot).setActive slot false } :=
    (user_lowering (goto_pc ..)).trans (goto_outside hpc _ _ _)
  unfold System.return at hreturn
  cases outcome with
  | message data =>
      dsimp only at hreturn
      unfold called
      dsimp only
      split at hreturn
      · next hlowers =>
          refine ⟨1, ?_⟩
          have hlowering := hreturn.trans (goto_goto _ (beginCall s slot) _ _)
          rw [if_pos hlowers]
          change user (user _ slot _) slot _ = _
          rw [hlowering]
          exact hlower
      · next hlowers =>
          refine ⟨0, ?_⟩
          rw [if_neg hlowers]
          split at hreturn
          · next hreceives =>
              rw [if_pos hreceives]
              exact hreturn.trans (goto_outside hpc _ _ _)
          · next hreceives =>
              rw [if_neg hreceives]
              exact hreturn.trans (goto_outside hpc _ _ _)
  | again =>
      dsimp only at hreturn
      unfold called
      dsimp only
      split at hreturn
      · next hreceives =>
          refine ⟨1, ?_⟩
          have hlowering := hreturn.trans (goto_goto _ (beginCall s slot) _ _)
          rw [if_pos hreceives]
          change user (user _ slot _) slot _ = _
          rw [hlowering]
          exact hlower
      · next hreceives =>
          refine ⟨0, ?_⟩
          rw [if_neg hreceives]
          exact hreturn.trans (goto_outside hpc _ _ _)
  | interrupted => exact ⟨0, hreturn.trans (goto_outside hpc _ _ _)⟩

theorem run_called (hpc : x.pc slot = .outside)
    (hended : x.terminator.ended = false) (hrunning : x.ipc.zmq.running = true)
    (hpointer : x.ipc.pointer slot ≠ none) (outcome : Outcome) :
    exists k, run step x (List.replicate k (.user slot outcome)) =
      { x with ipc := called x.ipc slot outcome } := by
  rcases run_beginCall x slot x.ipc outcome with ⟨j, hj⟩
  rcases return_called hended hpc x.ipc outcome with ⟨k, hk⟩
  have hentered : user _ slot outcome = _ :=
    user_running (goto_pc x slot x.ipc .running) hpointer
  rw [goto_goto] at hentered
  refine ⟨2 + (j + (k + 1)), ?_⟩
  rw [List.replicate_add, List.replicate_add, run_append, run_append]
  change run step (run step (user (user x slot outcome) slot outcome) _) _ = _
  rw [user_outside hpc hrunning hpointer, hentered, hj]
  exact hk

theorem cutSend_cases {data : List UInt8} {result : SendOutcome}
    (h : cutSend data result = some outcome) :
    (result = .queued ∧ outcome = .message data) ∨
      (result = .again ∧ outcome = .again) ∨
        (result = .error EINTR ∧ outcome = .interrupted) := by
  cases result with
  | queued =>
      cases h
      exact Or.inl ⟨rfl, rfl⟩
  | again =>
      cases h
      exact Or.inr (Or.inl ⟨rfl, rfl⟩)
  | error e =>
      dsimp only [cutSend] at h
      split at h
      · next he =>
          cases h
          exact Or.inr (Or.inr ⟨congrArg _ he, rfl⟩)
      · cases h

theorem cutRecv_cases {result : RecvOutcome} (h : cutRecv result = some outcome) :
    (exists data behind, result = .message data behind ∧
        outcome = .message data) ∨
      (result = .again ∧ outcome = .again) ∨
        (result = .error EINTR ∧ outcome = .interrupted) := by
  cases result with
  | message data behind =>
      cases h
      exact Or.inl ⟨data, behind, rfl, rfl⟩
  | again =>
      cases h
      exact Or.inr (Or.inl ⟨rfl, rfl⟩)
  | error e =>
      dsimp only [cutRecv] at h
      split at h
      · next he =>
          cases h
          exact Or.inr (Or.inr ⟨congrArg _ he, rfl⟩)
      · cases h

theorem cut_some {slot' : Slot} {cutted : Option Outcome}
    (h : cutted.map (Prod.mk slot') = some (slot, outcome)) :
    cutted = some outcome ∧ slot' = slot := by
  rcases Option.map_eq_some_iff.mp h with ⟨found, hfound, heq⟩
  cases heq
  exact ⟨hfound, rfl⟩

theorem perform_called {op : Operation} {g : Guard} {s : State}
    (hop : cut op = some (slot, outcome)) (hg : op.guard = some g)
    (hstop : g.calls.stop = false) (hrunning : s.zmq.running = true)
    (hpointer : s.pointer slot ≠ none) (hcrashed : s.crashed = false) :
    perform s op = called s slot outcome := by
  have henter : forall connect calls, calls.stop = false ->
      enter connect slot calls s = (true, s) := by
    intro connect calls hcalls
    rcases Option.ne_none_iff_exists'.mp hpointer with ⟨socket, hsocket⟩
    simp [enter, hcalls, hrunning, ensure, hsocket]
  have hsend := (use_crashed .send hpointer).trans hcrashed
  have hrecv : ((s.setActive slot true).use .recv slot).crashed = false :=
    recv_crashed hcrashed hpointer
  cases op with
  | updateState newState calls result =>
      cases hg
      dsimp only [cut] at hop
      rcases cut_some hop with ⟨hcut, rfl⟩
      rcases cutSend_cases hcut with ⟨rfl, rfl⟩ | ⟨rfl, rfl⟩ | ⟨rfl, rfl⟩ <;>
        simp only [perform, updateState, henter _ _ hstop, hsend] <;> rfl
  | sendStatistics name values calls allocation result =>
      cases hg
      dsimp only [cut] at hop
      split at hop
      · cases hop
      · next hsent =>
          rcases cut_some hop with ⟨hcut, rfl⟩
          simp only [Bool.or_eq_true, not_or, Bool.not_eq_true] at hsent
          have hguard : (decide (s.pointer .statisticsSender = none) ||
              name.isEmpty || values.isEmpty || allocation.isSome) = false := by
            simp [hpointer, hsent]
          rcases cutSend_cases hcut with ⟨rfl, rfl⟩ | ⟨rfl, rfl⟩ | ⟨rfl, rfl⟩ <;>
            simp only [perform, sendStatistics, henter _ _ hstop, hguard] <;> rfl
  | sendCommand command calls connected result =>
      cases hg
      dsimp only [cut] at hop
      split at hop
      · cases hop
      · next hsent =>
          rcases cut_some hop with ⟨hcut, rfl⟩
          simp only [Bool.or_eq_true, not_or, Bool.not_eq_true] at hsent
          have hguard : (decide (s.pointer .commandSender = none) ||
              command.isEmpty || !connected) = false := by
            simp [hpointer, hsent]
          rcases cutSend_cases hcut with ⟨rfl, rfl⟩ | ⟨rfl, rfl⟩ | ⟨rfl, rfl⟩ <;>
            simp only [perform, sendCommand, henter _ _ hstop, hguard] <;> rfl
  | getNextCommand calls result =>
      cases hg
      dsimp only [cut] at hop
      rcases cut_some hop with ⟨hcut, rfl⟩
      rcases cutRecv_cases hcut with ⟨data, behind, rfl, rfl⟩ | ⟨rfl, rfl⟩ |
          ⟨rfl, rfl⟩ <;>
        simp only [perform, getNextCommand, henter _ _ hstop, hrecv] <;> rfl
  | tryToReceiveStatistics calls result =>
      cases hg
      dsimp only [cut] at hop
      rcases cut_some hop with ⟨hcut, rfl⟩
      rcases cutRecv_cases hcut with ⟨data, behind, rfl, rfl⟩ | ⟨rfl, rfl⟩ |
          ⟨rfl, rfl⟩ <;>
        simp only [perform, tryToReceiveStatistics, henter _ _ hstop, hrecv] <;> rfl
  | tryToReceiveState calls result =>
      cases hg
      dsimp only [cut] at hop
      rcases cut_some hop with ⟨hcut, rfl⟩
      rcases cutRecv_cases hcut with ⟨data, behind, rfl, rfl⟩ | ⟨rfl, rfl⟩ |
          ⟨rfl, rfl⟩ <;>
        simp only [perform, tryToReceiveState, henter _ _ hstop, hrecv] <;> rfl
  | sendErrorMessage message calls allocation result => cases hop
  | setTimeout timeout calls first second => cases hop
  | shutDown => cases hop

/-- The steps of one operation in a row are the operation. -/
theorem run_perform {op : Operation} {g : Guard} (hop : cut op = some (slot, outcome))
    (hg : op.guard = some g) (hstop : g.calls.stop = false)
    (hpc : x.pc slot = .outside) (hended : x.terminator.ended = false)
    (hrunning : x.ipc.zmq.running = true) (hpointer : x.ipc.pointer slot ≠ none)
    (hcrashed : x.ipc.crashed = false) :
    exists k, run step x (List.replicate k (.user slot outcome)) =
      { x with ipc := perform x.ipc op } := by
  rw [perform_called hop hg hstop hrunning hpointer hcrashed]
  exact run_called hpc hended hrunning hpointer outcome

/-- A call that throws ends in the exception handler of the operation. -/
theorem run_failed {e : Errno} (hpc : x.pc slot = .calling)
    (hended : x.terminator.ended = true) (hdestroys : destroysOnError slot = true)
    (he : e ≠ EINTR) :
    run step x (List.replicate 3 (.user slot outcome)) =
      { x.goto slot .outside with ipc := x.ipc.failed slot e } := by
  have hthrow : user x slot outcome = { x.goto slot .destroying with ipc := x.ipc } := by
    rw [user, hpc]
    exact (if_pos hended).trans (if_pos hdestroys)
  have hdestroy : forall s, user { x.goto slot .destroying with ipc := s } slot outcome =
      { x.goto slot .clearing with ipc := s.destroy slot } := by
    intro s
    rw [user, goto_pc]
    exact goto_goto _ _ _ _
  have hclear : forall s, user { x.goto slot .clearing with ipc := s } slot outcome =
      { x.goto slot .outside with
        ipc := { s with pointer := Function.update s.pointer slot none } } := by
    intro s
    rw [user, goto_pc]
    exact goto_goto _ _ _ _
  change user (user (user x slot outcome) slot outcome) slot outcome = _
  rw [hthrow, hdestroy, hclear, State.failed, if_pos he, State.drop, destroy_pointer]

theorem run_closeAll (slots : List Slot) (s : State) :
    exists k, run step { x with ipc := s, terminator := .testing slots }
        (List.replicate k .terminator) =
      { x with ipc := slots.foldl closeInactive s, terminator := .testing [] } := by
  induction slots generalizing s with
  | nil => exact ⟨0, rfl⟩
  | cons slot rest ih =>
      rcases ih (closeInactive s slot) with ⟨k, hk⟩
      cases hactive : s.active slot with
      | true =>
          refine ⟨k + 1, ?_⟩
          rw [List.replicate_succ, run_cons, List.foldl_cons, ← hk]
          simp [step, terminate, closeInactive, hactive]
      | false =>
          refine ⟨k + 2, ?_⟩
          rw [List.replicate_succ, List.replicate_succ, run_cons, run_cons,
            List.foldl_cons, ← hk]
          simp [step, terminate, closeInactive, hactive]

/-- The steps of `Stop` and `shutDown` in a row are these two. -/
theorem run_shutDown (hidle : x.terminator = .idle) :
    exists k, run step x (List.replicate k .terminator) =
      { x with
        ipc := shutDown { x.ipc with zmq := Stop x.ipc.zmq }
        terminator := .testing [] } := by
  rcases run_closeAll (x := x) shutDownOrder
    { x.ipc with zmq := Stop x.ipc.zmq } with ⟨k, hk⟩
  refine ⟨k + 1, ?_⟩
  rw [List.replicate_succ, run_cons]
  simp only [step, terminate, hidle]
  exact hk

end Pieces

/-!
## What a step can do
-/

structure SameSockets (s s' : State) : Prop where
  zmq : s'.zmq = s.zmq
  pointer : s'.pointer = s.pointer

inductive UserMove (x : System) (slot : Slot) : System -> Prop where
  | stays : x.pc slot = .outside -> UserMove x slot x
  | enters : x.pc slot = .outside -> x.ipc.zmq.running = true ->
      x.ipc.pointer slot ≠ none -> UserMove x slot (x.goto slot .running)
  | unconnected : x.pc slot = .running -> x.ipc.pointer slot = none ->
      UserMove x slot x
  | passes : x.pc slot = .running -> UserMove x slot (x.goto slot .tested)
  | raises : x.pc slot = .tested -> receives slot = true -> UserMove x slot
      { x.goto slot .raised with ipc := x.ipc.setActive slot true }
  | begins (s : State) : x.pc slot = .tested ∨ x.pc slot = .raised ->
      SameSockets x.ipc s -> s.active = x.ipc.active ->
      UserMove x slot { x.goto slot .calling with ipc := s }
  | returns (s : State) (pc : Pc) : x.pc slot = .calling ->
      x.terminator.ended = false -> SameSockets x.ipc s ->
      s.active = x.ipc.active -> pc = .outside ∨ pc = .lowering ->
      UserMove x slot { x.goto slot pc with ipc := s }
  | throws : x.pc slot = .calling -> x.terminator.ended = true ->
      destroysOnError slot = true -> UserMove x slot (x.goto slot .destroying)
  | prints : x.pc slot = .calling -> x.terminator.ended = true ->
      destroysOnError slot = false -> UserMove x slot (x.goto slot .outside)
  | lowers : x.pc slot = .lowering -> UserMove x slot
      { x.goto slot .outside with ipc := x.ipc.setActive slot false }
  | destroys : x.pc slot = .destroying -> UserMove x slot
      { x.goto slot .clearing with ipc := x.ipc.destroy slot }
  | clears : x.pc slot = .clearing -> UserMove x slot
      { x.goto slot .outside with
        ipc := { x.ipc with
          pointer := Function.update x.ipc.pointer slot none } }

inductive TerminatorMove (x : System) : System -> Prop where
  | stays : x.terminator.ended = true -> TerminatorMove x x
  | stops : x.terminator = .idle -> TerminatorMove x
      { x with
        ipc := { x.ipc with zmq := Stop x.ipc.zmq }
        terminator := .testing shutDownOrder }
  | skips (slot : Slot) (rest : List Slot) :
      x.terminator = .testing (slot :: rest) -> x.ipc.active slot = true ->
      TerminatorMove x { x with terminator := .testing rest }
  | selects (slot : Slot) (rest : List Slot) :
      x.terminator = .testing (slot :: rest) ->
      TerminatorMove x { x with terminator := .closing slot rest }
  | closes (slot : Slot) (rest : List Slot) :
      x.terminator = .closing slot rest -> TerminatorMove x
      { x with ipc := x.ipc.destroy slot, terminator := .testing rest }
  | deletes : x.terminator = .testing [] ->
      TerminatorMove x { x with terminator := .terminating }
  | finishes : x.terminator = .terminating -> x.ipc.zmq.openSockets = [] ->
      TerminatorMove x { x with terminator := .finished }

theorem use_sockets (s : State) (call : Call) (slot : Slot) :
    SameSockets s (s.use call slot) :=
  ⟨use_zmq _ _ _, use_pointer _ _ _⟩

theorem transmit_sockets (s : State) (slot : Slot) (data : List UInt8) :
    SameSockets s (s.transmit slot data) := by
  unfold State.transmit
  split <;> exact ⟨rfl, rfl⟩

theorem return_move {x : System} {slot : Slot} (hpc : x.pc slot = .calling)
    (hended : x.terminator.ended = false) (outcome : Outcome) :
    UserMove x slot (x.return slot outcome) := by
  have hplain : forall pc, pc = .outside ∨ pc = .lowering ->
      UserMove x slot (x.goto slot pc) :=
    fun pc h => UserMove.returns x.ipc pc hpc hended ⟨rfl, rfl⟩ rfl h
  unfold System.return
  cases outcome with
  | message data =>
      dsimp only
      split
      · exact hplain _ (Or.inr rfl)
      · split
        · exact hplain _ (Or.inl rfl)
        · exact UserMove.returns _ _ hpc hended (transmit_sockets _ _ _)
            (transmit_active _ _ _) (Or.inl rfl)
  | again =>
      dsimp only
      split
      · exact hplain _ (Or.inr rfl)
      · exact hplain _ (Or.inl rfl)
  | interrupted => exact hplain _ (Or.inl rfl)

theorem user_move (x : System) (slot : Slot) (outcome : Outcome) :
    UserMove x slot (user x slot outcome) := by
  unfold user
  cases hpc : x.pc slot with
  | outside =>
      dsimp only
      split
      · next h => exact UserMove.enters hpc h.left h.right
      · exact UserMove.stays hpc
  | running =>
      dsimp only
      split
      · exact UserMove.passes hpc
      · next hnull => exact UserMove.unconnected hpc (not_not.mp hnull)
  | tested =>
      dsimp only
      split
      · next hreceives => exact UserMove.raises hpc hreceives
      · exact UserMove.begins _ (Or.inl hpc) (use_sockets _ _ _)
          (use_active _ _ _)
  | raised =>
      exact UserMove.begins _ (Or.inr hpc) (use_sockets _ _ _) (use_active _ _ _)
  | calling =>
      dsimp only
      split
      · next hended =>
          unfold System.throw
          split
          · next h => exact UserMove.throws hpc hended h
          · next h => exact UserMove.prints hpc hended (Bool.eq_false_iff.mpr h)
      · next hended => exact return_move hpc (Bool.eq_false_iff.mpr hended) outcome
  | lowering => exact UserMove.lowers hpc
  | destroying => exact UserMove.destroys hpc
  | clearing => exact UserMove.clears hpc

theorem terminator_move (x : System) : TerminatorMove x (terminate x) := by
  unfold terminate
  split
  · next h => exact TerminatorMove.stops h
  · next h => exact TerminatorMove.deletes h
  · next slot rest h =>
      split
      · next hactive => exact TerminatorMove.skips slot rest h hactive
      · exact TerminatorMove.selects slot rest h
  · next slot rest h => exact TerminatorMove.closes slot rest h
  · next h =>
      split
      · next hnone => exact TerminatorMove.finishes h hnone
      · exact TerminatorMove.stays (by rw [h]; rfl)
  · next h => exact TerminatorMove.stays (by rw [h]; rfl)

/-!
## Sockets and their slots
-/

def OpenFor (s : State) (slot : Slot) : Prop :=
  exists socket, s.pointer slot = some socket ∧ socket ∈ s.zmq.openSockets

structure Registered (s : State) : Prop where
  distinct : forall slot other socket, s.pointer slot = some socket ->
    s.pointer other = some socket -> slot = other
  owned : forall socket, socket ∈ s.zmq.openSockets ->
    exists slot, s.pointer slot = some socket

section Sockets

variable {s s' : State} {slot other : Slot}

theorem SameSockets.openFor_iff (h : SameSockets s s') :
    OpenFor s' slot <-> OpenFor s slot := by
  rw [OpenFor, OpenFor, h.zmq, h.pointer]

theorem SameSockets.registered (h : SameSockets s s') (hs : Registered s) :
    Registered s' := by
  refine ⟨?_, ?_⟩
  · rw [h.pointer]
    exact hs.distinct
  · rw [h.zmq, h.pointer]
    exact hs.owned

theorem mem_openSockets_destroy {socket : SocketId} :
    socket ∈ (s.destroy slot).zmq.openSockets <->
      socket ∈ s.zmq.openSockets ∧ s.pointer slot ≠ some socket := by
  unfold State.destroy
  split
  · next hnull => simp [hnull]
  · next destroyed hpointer =>
      simp only [DestroySocket, List.mem_filter, decide_eq_true_eq, hpointer,
        ne_eq, Option.some.injEq]
      exact and_congr_right fun _ => not_congr eq_comm

theorem destroy_registered (h : Registered s) (slot : Slot) :
    Registered (s.destroy slot) := by
  refine ⟨?_, ?_⟩
  · rw [destroy_pointer]
    exact h.distinct
  · intro socket hsocket
    rw [destroy_pointer]
    exact h.owned socket (mem_openSockets_destroy.mp hsocket).left

theorem openFor_destroy (h : Registered s) :
    OpenFor (s.destroy slot) other <-> OpenFor s other ∧ other ≠ slot := by
  constructor
  · rintro ⟨socket, hpointer, hopen⟩
    rw [destroy_pointer] at hpointer
    rcases mem_openSockets_destroy.mp hopen with ⟨hold, hne⟩
    refine ⟨⟨socket, hpointer, hold⟩, ?_⟩
    intro heq
    rw [← heq] at hne
    exact hne hpointer
  · rintro ⟨⟨socket, hpointer, hopen⟩, hne⟩
    refine ⟨socket, ?_, mem_openSockets_destroy.mpr ⟨hopen, ?_⟩⟩
    · rw [destroy_pointer]
      exact hpointer
    · intro hslot
      exact hne (h.distinct other slot socket hpointer hslot)

theorem clear_registered (h : Registered s) (hclosed : ¬ OpenFor s slot) :
    Registered { s with pointer := Function.update s.pointer slot none } := by
  have hkept : forall other socket,
      Function.update s.pointer slot none other = some socket ->
        s.pointer other = some socket := by
    intro other socket hother
    by_cases heq : other = slot
    · rw [heq, Function.update_self] at hother
      cases hother
    · rwa [Function.update_of_ne heq] at hother
  refine ⟨?_, ?_⟩
  · intro a b socket ha hb
    exact h.distinct a b socket (hkept a socket ha) (hkept b socket hb)
  · intro socket hsocket
    rcases h.owned socket hsocket with ⟨owner, howner⟩
    refine ⟨owner, ?_⟩
    change Function.update s.pointer slot none owner = some socket
    rw [Function.update_of_ne]
    · exact howner
    · intro heq
      rw [heq] at howner
      exact hclosed ⟨socket, howner, hsocket⟩

theorem openFor_clear (hclosed : ¬ OpenFor s slot) :
    OpenFor { s with pointer := Function.update s.pointer slot none } other <->
      OpenFor s other := by
  by_cases heq : other = slot
  · subst heq
    refine iff_of_false ?_ hclosed
    rintro ⟨socket, hpointer, _⟩
    change Function.update s.pointer other none other = some socket at hpointer
    rw [Function.update_self] at hpointer
    cases hpointer
  · unfold OpenFor
    dsimp only
    rw [Function.update_of_ne heq]

end Sockets

theorem destroy_running (s : State) (slot : Slot) :
    (s.destroy slot).zmq.running = s.zmq.running := by
  unfold State.destroy
  split <;> rfl

/-!
## What holds in all runs
-/

/-- The slots that `shutDown` has not yet dealt with. -/
def Terminator.pending : Terminator -> List Slot
  | .idle => shutDownOrder
  | .testing rest => rest
  | .closing slot rest => slot :: rest
  | .terminating | .finished => []

structure Inv (x : System) : Prop where
  registered : Registered x.ipc
  cleared : forall slot, x.pc slot = .clearing -> ¬ OpenFor x.ipc slot
  idle : x.terminator = .idle -> forall slot, x.ipc.pointer slot ≠ none ->
    OpenFor x.ipc slot
  running : x.ipc.zmq.running = true -> x.terminator = .idle
  handlers : x.terminator.ended = false -> forall slot,
    x.pc slot ≠ .destroying ∧ x.pc slot ≠ .clearing
  senders : forall slot, receives slot = false -> x.ipc.active slot = false
  visited : forall slot, receives slot = false ->
    slot ∉ x.terminator.pending -> ¬ OpenFor x.ipc slot

structure Connected (s : State) : Prop where
  registered : Registered s
  running : s.zmq.running = true
  live : forall slot, s.pointer slot ≠ none -> OpenFor s slot
  senders : forall slot, receives slot = false -> s.active slot = false

def System.initial (s : State) : System where
  ipc := s
  pc := fun _ => .outside
  terminator := .idle

theorem initial_inv {s : State} (h : Connected s) : Inv (System.initial s) where
  registered := h.registered
  cleared := nofun
  idle := fun _ => h.live
  running := fun _ => rfl
  handlers := fun _ _ => ⟨nofun, nofun⟩
  senders := h.senders
  visited := fun slot _ hslot => absurd (mem_shutDownOrder slot) hslot

section Steps

variable {x : System} {slot : Slot}

theorem Inv.stopped (h : Inv x) {terminator : Terminator}
    (hterminator : x.terminator = terminator) (hbegun : terminator ≠ .idle)
    {P : Prop} (hrunning : x.ipc.zmq.running = true) : P :=
  absurd (hterminator.symm.trans (h.running hrunning)) hbegun

/-- An operation destroys its socket only after the context has begun to end. -/
theorem Inv.ended (h : Inv x) (hleaving : x.pc slot = .destroying ∨
    x.pc slot = .clearing) : x.terminator.ended = true := by
  by_contra hnot
  rcases h.handlers (Bool.eq_false_iff.mpr hnot) slot with ⟨hdestroying, hclearing⟩
  rcases hleaving with hpc | hpc
  · exact hdestroying hpc
  · exact hclearing hpc

theorem ended_not_idle (h : x.terminator.ended = true) {P : Prop}
    (hidle : x.terminator = .idle) : P := by
  rw [hidle] at h
  cases h

theorem pc_update {pcs : Slot -> Pc} {pc other : Pc} {j : Slot}
    (h : Function.update pcs slot pc j = other) (hne : pc ≠ other) :
    pcs j = other := by
  by_cases heq : j = slot
  · rw [heq, Function.update_self] at h
    exact absurd h hne
  · rwa [Function.update_of_ne heq] at h

theorem inv_same (h : Inv x) {s : State} {pc : Pc} (hsame : SameSockets x.ipc s)
    (hactive : forall other, receives other = false ->
      s.active other = x.ipc.active other)
    (hclearing : pc ≠ .clearing)
    (hdestroying : x.terminator.ended = false -> pc ≠ .destroying) :
    Inv { x.goto slot pc with ipc := s } := by
  refine ⟨hsame.registered h.registered, ?_, ?_, ?_, ?_, ?_, ?_⟩
  · intro other hother
    rw [hsame.openFor_iff]
    exact h.cleared other (pc_update hother hclearing)
  · intro hidle other
    change s.pointer other ≠ none -> _
    rw [hsame.openFor_iff, hsame.pointer]
    exact h.idle hidle other
  · change s.zmq.running = true -> _
    rw [hsame.zmq]
    exact h.running
  · intro hended other
    refine ⟨fun hother => ?_, fun hother => ?_⟩
    · exact (h.handlers hended other).left
        (pc_update hother (hdestroying hended))
    · exact (h.handlers hended other).right (pc_update hother hclearing)
  · intro other hother
    exact (hactive other hother).trans (h.senders other hother)
  · intro other hother hpending
    rw [hsame.openFor_iff]
    exact h.visited other hother hpending

theorem setActive_sender (s : State) (hreceives : receives slot = true) (up : Bool)
    (other : Slot) (h : receives other = false) :
    (s.setActive slot up).active other = s.active other := by
  have hne : other ≠ slot := by
    intro heq
    rw [heq, hreceives] at h
    cases h
  rw [setActive_active, Function.update_of_ne hne]

theorem user_inv {x' : System} (hmove : UserMove x slot x') (h : Inv x) :
    Inv x' := by
  have hkeep : forall other, receives other = false ->
      x.ipc.active other = x.ipc.active other := fun _ _ => rfl
  cases hmove with
  | stays hpc => exact h
  | enters hpc hrunning hpointer =>
      exact inv_same h ⟨rfl, rfl⟩ hkeep nofun nofun
  | unconnected hpc hpointer => exact h
  | passes hpc => exact inv_same h ⟨rfl, rfl⟩ hkeep nofun nofun
  | raises hpc hreceives =>
      exact inv_same h ⟨rfl, rfl⟩ (setActive_sender x.ipc hreceives true) nofun nofun
  | begins s hpc hsame hactive =>
      exact inv_same h hsame (fun other _ => congrFun hactive other) nofun nofun
  | returns s pc hpc hended hsame hactive hnext =>
      refine inv_same h hsame (fun other _ => congrFun hactive other) ?_ ?_
      · rcases hnext with rfl | rfl <;> exact nofun
      · rcases hnext with rfl | rfl <;> exact fun _ => nofun
  | throws hpc hended hdestroys =>
      refine inv_same h ⟨rfl, rfl⟩ hkeep nofun ?_
      intro hnot
      rw [hended] at hnot
      cases hnot
  | prints hpc hended hdestroys =>
      exact inv_same h ⟨rfl, rfl⟩ hkeep nofun nofun
  | lowers hpc =>
      refine inv_same h ⟨rfl, rfl⟩ ?_ nofun nofun
      intro other hother
      rw [setActive_active]
      by_cases heq : other = slot
      · rw [heq, Function.update_self]
        rw [heq] at hother
        exact (h.senders slot hother).symm
      · rw [Function.update_of_ne heq]
  | destroys hpc =>
      have hended := h.ended (Or.inl hpc)
      refine ⟨destroy_registered h.registered slot, ?_, ?_, ?_, ?_, ?_, ?_⟩
      · intro other hother
        rw [openFor_destroy h.registered]
        rintro ⟨hopen, hne⟩
        refine h.cleared other ?_ hopen
        change Function.update x.pc slot .clearing other = .clearing at hother
        rwa [Function.update_of_ne hne] at hother
      · exact ended_not_idle hended
      · intro hrunning
        change (x.ipc.destroy slot).zmq.running = true at hrunning
        rw [destroy_running] at hrunning
        exact h.running hrunning
      · intro hnot
        change x.terminator.ended = false at hnot
        rw [hended] at hnot
        cases hnot
      · intro other hother
        change (x.ipc.destroy slot).active other = false
        rw [destroy_active]
        exact h.senders other hother
      · intro other hother hpending
        rw [openFor_destroy h.registered]
        rintro ⟨hopen, _⟩
        exact h.visited other hother hpending hopen
  | clears hpc =>
      have hclosed := h.cleared slot hpc
      have hended := h.ended (Or.inr hpc)
      refine ⟨clear_registered h.registered hclosed, ?_, ?_, h.running, ?_,
        h.senders, ?_⟩
      · intro other hother
        rw [openFor_clear hclosed]
        exact h.cleared other (pc_update hother nofun)
      · exact ended_not_idle hended
      · intro hnot
        change x.terminator.ended = false at hnot
        rw [hended] at hnot
        cases hnot
      · intro other hother hpending
        rw [openFor_clear hclosed]
        exact h.visited other hother hpending

theorem terminator_inv {x' : System} (hmove : TerminatorMove x x') (h : Inv x) :
    Inv x' := by
  cases hmove with
  | stays hended => exact h
  | stops hidle =>
      have hhandlers := h.handlers (by rw [hidle]; rfl)
      refine ⟨⟨h.registered.distinct, h.registered.owned⟩, h.cleared, nofun, nofun,
        fun _ => hhandlers, h.senders, ?_⟩
      intro other _ hpending
      exact absurd (mem_shutDownOrder other) hpending
  | skips slot rest hterminator hactive =>
      have hhandlers := h.handlers (by rw [hterminator]; rfl)
      refine ⟨h.registered, h.cleared, nofun, ?_, fun _ => hhandlers, h.senders, ?_⟩
      · exact h.stopped hterminator nofun
      · intro other hother hpending
        refine h.visited other hother ?_
        rw [hterminator]
        intro hmem
        rcases List.mem_cons.mp hmem with heq | hrest
        · rw [heq] at hother
          rw [h.senders slot hother] at hactive
          cases hactive
        · exact hpending hrest
  | selects slot rest hterminator =>
      have hhandlers := h.handlers (by rw [hterminator]; rfl)
      refine ⟨h.registered, h.cleared, nofun, ?_, fun _ => hhandlers, h.senders, ?_⟩
      · exact h.stopped hterminator nofun
      · intro other hother hpending
        refine h.visited other hother ?_
        rw [hterminator]
        exact hpending
  | closes slot rest hterminator =>
      have hhandlers := h.handlers (by rw [hterminator]; rfl)
      refine ⟨destroy_registered h.registered slot, ?_, nofun, ?_, fun _ => hhandlers,
        ?_, ?_⟩
      · intro other hother
        exact absurd hother (hhandlers other).right
      · intro hrunning
        change (x.ipc.destroy slot).zmq.running = true at hrunning
        rw [destroy_running] at hrunning
        exact h.stopped hterminator nofun hrunning
      · intro other hother
        change (x.ipc.destroy slot).active other = false
        rw [destroy_active]
        exact h.senders other hother
      · intro other hother hpending
        rw [openFor_destroy h.registered]
        rintro ⟨hopen, hne⟩
        refine h.visited other hother ?_ hopen
        rw [hterminator]
        intro hmem
        rcases List.mem_cons.mp hmem with heq | hrest
        · exact hne heq
        · exact hpending hrest
  | deletes hterminator =>
      refine ⟨h.registered, h.cleared, nofun, ?_, nofun, h.senders, ?_⟩
      · exact h.stopped hterminator nofun
      · intro other hother _
        refine h.visited other hother ?_
        rw [hterminator]
        exact List.not_mem_nil
  | finishes hterminator hnone =>
      refine ⟨h.registered, h.cleared, nofun, ?_, nofun, h.senders, ?_⟩
      · exact h.stopped hterminator nofun
      · intro other hother _
        refine h.visited other hother ?_
        rw [hterminator]
        exact List.not_mem_nil

end Steps

theorem step_inv (x : System) (a : Label) (h : Inv x) : Inv (step x a) := by
  cases a with
  | user slot outcome => exact user_inv (user_move x slot outcome) h
  | terminator => exact terminator_inv (terminator_move x) h

/-!
## Calls on sockets that are gone
-/

def Pc.uses : Pc -> Bool
  | .running | .tested | .raised | .calling | .destroying => true
  | .outside | .lowering | .clearing => false

def Safe (x : System) : Prop :=
  forall slot, (x.pc slot).uses = true -> OpenFor x.ipc slot

def ClosesUnused (x : System) : Label -> Prop
  | .user _ _ => True
  | .terminator =>
      match x.terminator with
      | .closing slot _ => (x.pc slot).uses = false
      | .idle | .testing _ | .terminating | .finished => True

instance ClosesUnused.decidable (x : System) (a : Label) :
    Decidable (ClosesUnused x a) := by
  unfold ClosesUnused
  split
  · infer_instance
  · split <;> infer_instance

section Safety

variable {x : System} {slot : Slot}

theorem safe_same (h : Safe x) {s : State} {pc : Pc} (hsame : SameSockets x.ipc s)
    (hopen : pc.uses = true -> OpenFor x.ipc slot) :
    Safe { x.goto slot pc with ipc := s } := by
  intro other hother
  rw [hsame.openFor_iff]
  by_cases heq : other = slot
  · subst heq
    change (Function.update x.pc other pc other).uses = true at hother
    rw [Function.update_self] at hother
    exact hopen hother
  · change (Function.update x.pc slot pc other).uses = true at hother
    rw [Function.update_of_ne heq] at hother
    exact h other hother

theorem user_safe {x' : System} (hmove : UserMove x slot x') (hinv : Inv x)
    (h : Safe x) : Safe x' := by
  cases hmove with
  | stays hpc => exact h
  | enters hpc hrunning hpointer =>
      exact safe_same h ⟨rfl, rfl⟩
        (fun _ => hinv.idle (hinv.running hrunning) slot hpointer)
  | unconnected hpc hpointer => exact h
  | passes hpc => exact safe_same h ⟨rfl, rfl⟩ (fun _ => h slot (by rw [hpc]; rfl))
  | raises hpc hreceives =>
      exact safe_same h ⟨rfl, rfl⟩ (fun _ => h slot (by rw [hpc]; rfl))
  | begins s hpc hsame hactive =>
      refine safe_same h hsame (fun _ => h slot ?_)
      rcases hpc with hpc | hpc
      · rw [hpc]
        rfl
      · rw [hpc]
        rfl
  | returns s pc hpc hended hsame hactive hnext =>
      refine safe_same h hsame ?_
      rcases hnext with rfl | rfl <;> exact nofun
  | throws hpc hended hdestroys =>
      exact safe_same h ⟨rfl, rfl⟩ (fun _ => h slot (by rw [hpc]; rfl))
  | prints hpc hended hdestroys => exact safe_same h ⟨rfl, rfl⟩ nofun
  | lowers hpc => exact safe_same h ⟨rfl, rfl⟩ nofun
  | destroys hpc =>
      intro other hother
      rw [openFor_destroy hinv.registered]
      change (Function.update x.pc slot .clearing other).uses = true at hother
      by_cases heq : other = slot
      · rw [heq, Function.update_self] at hother
        cases hother
      · rw [Function.update_of_ne heq] at hother
        exact ⟨h other hother, heq⟩
  | clears hpc =>
      intro other hother
      rw [openFor_clear (hinv.cleared slot hpc)]
      change (Function.update x.pc slot .outside other).uses = true at hother
      by_cases heq : other = slot
      · rw [heq, Function.update_self] at hother
        cases hother
      · rw [Function.update_of_ne heq] at hother
        exact h other hother

theorem step_safe_iff (x : System) (a : Label) (hinv : Inv x) (h : Safe x) :
    Safe (step x a) <-> ClosesUnused x a := by
  cases a with
  | user slot outcome =>
      exact iff_of_true (user_safe (user_move x slot outcome) hinv h) trivial
  | terminator =>
      have hmove := terminator_move x
      change Safe (terminate x) <-> _
      generalize terminate x = x' at hmove
      unfold ClosesUnused
      cases hmove with
      | closes slot rest hterminator =>
          simp only [hterminator]
          constructor
          · intro hsafe
            by_contra huses
            have hopen := hsafe slot (by simpa using huses)
            exact ((openFor_destroy hinv.registered).mp hopen).right rfl
          · intro hunused other hother
            rw [openFor_destroy hinv.registered]
            refine ⟨h other hother, ?_⟩
            rintro rfl
            change (x.pc other).uses = true at hother
            rw [hunused] at hother
            cases hother
      | stays hended =>
          refine iff_of_true h ?_
          cases hterminator : x.terminator with
          | closing slot rest =>
              rw [hterminator] at hended
              cases hended
          | _ => trivial
      | stops hterminator =>
          simp only [hterminator, iff_true]
          exact h
      | skips slot rest hterminator hactive =>
          simp only [hterminator, iff_true]
          exact h
      | selects slot rest hterminator =>
          simp only [hterminator, iff_true]
          exact h
      | deletes hterminator =>
          simp only [hterminator, iff_true]
          exact h
      | finishes hterminator hnone =>
          simp only [hterminator, iff_true]
          exact h

end Safety

def bound : State :=
  (bindServer Calls.succeed State.initial).2

theorem bound_connected : Connected bound where
  registered := by
    refine ⟨?_, ?_⟩
    · intro slot other socket hslot hother
      cases slot <;> cases hslot <;> cases other <;>
        first
        | rfl
        | cases hother
    · intro socket hsocket
      have hopen : bound.zmq.openSockets = [0, 1, 2] := rfl
      have hthree : socket = 0 ∨ socket = 1 ∨ socket = 2 := by
        simpa [hopen] using hsocket
      rcases hthree with rfl | rfl | rfl
      · exact ⟨.stateReceiver, rfl⟩
      · exact ⟨.statisticsReceiver, rfl⟩
      · exact ⟨.commandSender, rfl⟩
  running := rfl
  live := by
    intro slot hpointer
    cases slot with
    | stateReceiver => exact ⟨0, rfl, by decide⟩
    | statisticsReceiver => exact ⟨1, rfl, by decide⟩
    | commandSender => exact ⟨2, rfl, by decide⟩
    | stateSender => exact absurd rfl hpointer
    | statisticsSender => exact absurd rfl hpointer
    | commandReceiver => exact absurd rfl hpointer
  senders := fun _ _ => rfl

end Shutdown
end IPCHandler
end Monitoring
end FarmNetworking
