import FarmNetworking.Socket.ZMQHandler

/-!
# Sending a message

`sendMessage` tries again when a signal interrupts it and destroys the socket on
any other error.  A `send` that would block does not throw.  It returns false, and
nobody looks at what it returns.
-/

namespace FarmNetworking
namespace Socket
namespace ZMQHandler

/--
One round of the loop.  Another thread may call `Stop` before `IsRunning` is
tested, and then `send` returns a Boolean or throws.
-/
structure Attempt where
  stop : Bool
  result : Except Errno Bool

structure Queued where
  socket : SocketId
  message : List UInt8
  flags : Int
  deriving DecidableEq

structure Sent where
  zmq : State
  queued : List Queued
  closed : List SocketId

/-- `IsRunning`, after another thread has possibly called `Stop`. -/
def State.interrupted (s : State) (stop : Bool) : State :=
  if stop then Stop s else s

/-- There is no result as long as the loop goes on. -/
def sendMessage (socket : SocketId) (message : List UInt8) (flags : Int) :
    State -> List Attempt -> Option Sent
  | _, [] => none
  | s, a :: rest =>
      let s := s.interrupted a.stop
      if !s.running then some { zmq := s, queued := [], closed := [] }
      else
        match a.result with
        | .ok queued => some {
            zmq := s
            queued := if queued then
                [{ socket := socket, message := message, flags := flags }]
              else []
            closed := [] }
        | .error e =>
            if e ≠ EINTR then
              some {
                zmq := DestroySocket s (some socket)
                queued := []
                closed := [socket] }
            else sendMessage socket message flags s rest

/-!
## The decisive round
-/

def Attempt.interrupted (a : Attempt) : Bool :=
  match a.result with
  | .ok _ => false
  | .error e => !a.stop && decide (e = EINTR)

def decisive : List Attempt -> Option Attempt
  | [] => none
  | a :: rest => if a.interrupted then decisive rest else some a

def conclude (socket : SocketId) (message : List UInt8) (flags : Int)
    (s : State) (a : Attempt) : Sent :=
  if a.stop then { zmq := Stop s, queued := [], closed := [] }
  else
    match a.result with
    | .ok true => {
        zmq := s
        queued := [{ socket := socket, message := message, flags := flags }]
        closed := [] }
    | .ok false => { zmq := s, queued := [], closed := [] }
    | .error _ => {
        zmq := DestroySocket s (some socket)
        queued := []
        closed := [socket] }

theorem interrupted_eq_true {a : Attempt} (h : a.interrupted = true) :
    a.stop = false ∧ a.result = .error EINTR := by
  unfold Attempt.interrupted at h
  split at h
  · cases h
  · next e hresult =>
      rw [Bool.and_eq_true, Bool.not_eq_true', decide_eq_true_eq] at h
      rcases h with ⟨hstop, heq⟩
      rw [hresult, heq]
      exact ⟨hstop, rfl⟩

theorem error_of_not_interrupted {a : Attempt} {e : Errno}
    (h : a.interrupted = false) (hstop : a.stop = false)
    (hresult : a.result = .error e) : e ≠ EINTR := by
  intro heq
  simp [Attempt.interrupted, hresult, hstop, heq] at h

theorem interrupted_stopped {s : State} (h : s.running = false)
    (stop : Bool) : (s.interrupted stop).running = false := by
  cases stop with
  | true => rfl
  | false => exact h

theorem conclude_round {socket : SocketId} {message : List UInt8} {flags : Int}
    {s : State} {a : Attempt} (rest : List Attempt)
    (hrunning : s.running = true) (h : a.interrupted = false) :
    sendMessage socket message flags s (a :: rest) =
      some (conclude socket message flags s a) := by
  unfold sendMessage conclude State.interrupted
  cases hstop : a.stop with
  | true => rfl
  | false =>
      cases hresult : a.result with
      | ok queued => cases queued <;> simp [hrunning]
      | error e =>
          have hother := error_of_not_interrupted h hstop hresult
          simp [hrunning, hother]

theorem sendMessage_running {socket : SocketId} {message : List UInt8}
    {flags : Int} {s : State} (hrunning : s.running = true)
    (attempts : List Attempt) :
    sendMessage socket message flags s attempts =
      (decisive attempts).map (conclude socket message flags s) := by
  induction attempts with
  | nil => rfl
  | cons a rest ih =>
      cases ha : a.interrupted with
      | false =>
          rw [conclude_round rest hrunning ha, decisive, ha]
          rfl
      | true =>
          rcases interrupted_eq_true ha with ⟨hstop, hresult⟩
          rw [decisive, ha, if_pos rfl, ← ih]
          simp [sendMessage, State.interrupted, hstop, hresult, hrunning]

theorem sendMessage_stopped {socket : SocketId} {message : List UInt8}
    {flags : Int} {s : State} (hstopped : s.running = false) (a : Attempt)
    (rest : List Attempt) :
    sendMessage socket message flags s (a :: rest) =
      some { zmq := s.interrupted a.stop, queued := [], closed := [] } := by
  have hstill := interrupted_stopped hstopped a.stop
  simp [sendMessage, hstill]

theorem sendMessage_cases {socket : SocketId} {message : List UInt8}
    {flags : Int} {s : State} {attempts : List Attempt} {r : Sent}
    (h : sendMessage socket message flags s attempts = some r) :
    (s.running = false ∧ exists stop, r =
      { zmq := s.interrupted stop, queued := [], closed := [] }) ∨
    (s.running = true ∧ exists a, decisive attempts = some a ∧
      r = conclude socket message flags s a) := by
  cases hrunning : s.running with
  | false =>
      cases attempts with
      | nil => cases h
      | cons a rest =>
          rw [sendMessage_stopped hrunning] at h
          exact Or.inl ⟨rfl, a.stop, (Option.some.inj h).symm⟩
  | true =>
      rw [sendMessage_running hrunning, Option.map_eq_some_iff] at h
      rcases h with ⟨a, ha, hconclude⟩
      exact Or.inr ⟨rfl, a, ha, hconclude.symm⟩

/-!
## What becomes of the message
-/

/-- After any number of interruptions, `send` returns false. -/
def WouldBlock (s : State) (attempts : List Attempt) : Prop :=
  s.running = true ∧ exists a, decisive attempts = some a ∧ a.stop = false ∧
    a.result = .ok false

def Fails (s : State) (attempts : List Attempt) : Prop :=
  s.running = true ∧ exists a e, decisive attempts = some a ∧
    a.stop = false ∧ a.result = .error e ∧ e ≠ EINTR

def Accounted (socket : SocketId) (message : List UInt8) (flags : Int)
    (s : State) (attempts : List Attempt) (r : Sent) : Prop :=
  r.queued = [{ socket := socket, message := message, flags := flags }] ∨
    (r.queued = [] ∧ r.zmq.running = false) ∨
    (r.queued = [] ∧ Fails s attempts ∧ socket ∉ r.zmq.openSockets)

theorem not_mem_openSockets_DestroySocket (s : State) (socket : SocketId) :
    socket ∉ (DestroySocket s (some socket)).openSockets := by
  simp [DestroySocket]

theorem decisive_not_interrupted {attempts : List Attempt} {a : Attempt}
    (h : decisive attempts = some a) : a.interrupted = false := by
  induction attempts with
  | nil => cases h
  | cons b rest ih =>
      cases hb : b.interrupted with
      | true =>
          rw [decisive, hb, if_pos rfl] at h
          exact ih h
      | false =>
          rw [decisive, hb] at h
          cases h
          exact hb

theorem conclude_accounted {socket : SocketId} {message : List UInt8}
    {flags : Int} {s : State} {attempts : List Attempt} {a : Attempt}
    (hrunning : s.running = true) (ha : decisive attempts = some a) :
    Accounted socket message flags s attempts
        (conclude socket message flags s a) <->
      ¬ WouldBlock s attempts := by
  have hnot := decisive_not_interrupted ha
  have hblocks : WouldBlock s attempts <->
      a.stop = false ∧ a.result = .ok false := by
    unfold WouldBlock
    rw [ha]
    constructor
    · rintro ⟨_, _, heq, hblock⟩
      cases heq
      exact hblock
    · exact fun hblock => ⟨hrunning, a, rfl, hblock⟩
  rw [hblocks]
  unfold conclude
  cases hstop : a.stop with
  | true =>
      exact iff_of_true (Or.inr (Or.inl ⟨rfl, rfl⟩)) (fun h => by cases h.left)
  | false =>
      rw [if_neg Bool.false_ne_true]
      cases hresult : a.result with
      | ok queued =>
          cases queued with
          | true => exact iff_of_true (Or.inl rfl) (fun h => by cases h.right)
          | false =>
              refine iff_of_false ?_ (fun h => h ⟨rfl, rfl⟩)
              rintro (hqueued | ⟨_, hstopped⟩ | ⟨_, hfails, _⟩)
              · cases hqueued
              · rw [hrunning] at hstopped
                cases hstopped
              · rcases hfails with ⟨_, b, e, hb, _, hthrows, _⟩
                rw [ha] at hb
                cases hb
                rw [hresult] at hthrows
                cases hthrows
      | error e =>
          have hother := error_of_not_interrupted hnot hstop hresult
          refine iff_of_true (Or.inr (Or.inr ⟨rfl, ?_, ?_⟩))
            (fun h => by cases h.right)
          · exact ⟨hrunning, a, e, ha, hstop, hresult, hother⟩
          · exact not_mem_openSockets_DestroySocket s socket

/--
A message is dropped without a reason exactly if the first `send` that no signal
interrupts would block.  It is never queued twice.
-/
theorem message_accounted_iff (s : State) (socket : SocketId)
    (message : List UInt8) (flags : Int) (attempts : List Attempt) (r : Sent)
    (h : sendMessage socket message flags s attempts = some r) :
    (Accounted socket message flags s attempts r <->
      ¬ WouldBlock s attempts) ∧ r.queued.length ≤ 1 := by
  rcases sendMessage_cases h with
    ⟨hstopped, stop, rfl⟩ | ⟨hrunning, a, ha, rfl⟩
  · have hstill := interrupted_stopped hstopped stop
    refine ⟨iff_of_true (Or.inr (Or.inl ⟨rfl, hstill⟩)) ?_, Nat.zero_le 1⟩
    rintro ⟨hrunning, _⟩
    rw [hstopped] at hrunning
    cases hrunning
  · refine ⟨conclude_accounted hrunning ha, ?_⟩
    unfold conclude
    split
    · exact Nat.zero_le 1
    · split
      · exact Nat.le_refl 1
      · exact Nat.zero_le 1
      · exact Nat.zero_le 1

/-- Two signals, and then the message goes through. -/
theorem message_accounted_interrupted :
    Accounted 0 [1, 2] 0 State.initial
      [⟨false, .error EINTR⟩, ⟨false, .error EINTR⟩, ⟨false, .ok true⟩]
      { zmq := State.initial
        queued := [{ socket := 0, message := [1, 2], flags := 0 }]
        closed := [] } :=
  ((message_accounted_iff State.initial 0 [1, 2] 0
    [⟨false, .error EINTR⟩, ⟨false, .error EINTR⟩, ⟨false, .ok true⟩] _
    rfl).left).mpr (by
      rintro ⟨_, a, ha, _, hresult⟩
      cases ha
      cases hresult)

/-- A full socket, asked not to wait, makes the call return as if it had sent. -/
theorem message_dropped :
    exists r, sendMessage 0 [1, 2] 1 State.initial [⟨false, .ok false⟩] =
        some r ∧
      ¬ Accounted 0 [1, 2] 1 State.initial [⟨false, .ok false⟩] r := by
  refine ⟨{ zmq := State.initial, queued := [], closed := [] }, rfl, ?_⟩
  rintro (hqueued | ⟨_, hstopped⟩ | ⟨_, ⟨_, a, e, ha, _, hthrows, _⟩, _⟩)
  · cases hqueued
  · cases hstopped
  · cases ha
    cases hthrows

end ZMQHandler
end Socket
end FarmNetworking
