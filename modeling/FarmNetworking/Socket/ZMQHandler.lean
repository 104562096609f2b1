import Mathlib.Data.List.Basic
import Mathlib.Logic.Function.Basic

/-!
# The registry of ZMQ sockets

`ZMQHandler` creates all sockets of the farm in one context and records the ones
that are in use in `allSockets_`.  A socket is numbered as it is created, so that
two sockets differ even where the allocator gives the second one the address of
the first.

Every call of the library can throw.  Which one does, and with which error
number, is part of the label.
-/

namespace FarmNetworking
namespace Socket
namespace ZMQHandler

abbrev SocketId := Nat

abbrev Errno := Int

def EINTR : Errno := 4

inductive SocketType where
  | push
  | pull
  deriving DecidableEq

inductive Endpoint where
  | bound (address : String)
  | connected (address : String)
  deriving DecidableEq

/-- The options that the repository sets, and what the socket is attached to. -/
structure SocketState where
  socketType : SocketType
  linger : Int
  sndhwm : Int
  rcvtimeo : Int
  endpoints : List Endpoint
  deriving DecidableEq

def SocketState.fresh (socketType : SocketType) : SocketState where
  socketType := socketType
  linger := -1
  sndhwm := 1000
  rcvtimeo := -1
  endpoints := []

/-- `openSockets` are the sockets that the context has open. -/
structure State where
  running : Bool
  numberOfActiveSockets : Int
  allSockets : List (SocketId × String)
  openSockets : List SocketId
  sockets : SocketId -> SocketState
  nextSocket : SocketId

def State.initial : State where
  running := true
  numberOfActiveSockets := 0
  allSockets := []
  openSockets := []
  sockets := fun _ => SocketState.fresh .push
  nextSocket := 0

/-- The keys of `allSockets_`. -/
def State.liveSockets (s : State) : List SocketId :=
  s.allSockets.map Prod.fst

def State.Holds (s : State) (socket : SocketId) (endpoint : Endpoint) : Prop :=
  socket ∈ s.openSockets ∧ endpoint ∈ (s.sockets socket).endpoints

/-!
## The operations
-/

def Stop (s : State) : State :=
  { s with running := false }

def construct (s : State) (socketType : SocketType) : State :=
  { s with
    openSockets := s.openSockets ++ [s.nextSocket]
    sockets := Function.update s.sockets s.nextSocket
      (SocketState.fresh socketType)
    nextSocket := s.nextSocket + 1 }

def configure (s : State) (socket : SocketId)
    (change : SocketState -> SocketState) : State :=
  { s with
    sockets := Function.update s.sockets socket (change (s.sockets socket)) }

def setLinger (linger : Int) (socket : SocketState) : SocketState :=
  { socket with linger := linger }

def setSndhwm (highWaterMark : Int) (socket : SocketState) : SocketState :=
  { socket with sndhwm := highWaterMark }

def setRcvtimeo (timeout : Int) (socket : SocketState) : SocketState :=
  { socket with rcvtimeo := timeout }

def addEndpoint (endpoint : Endpoint) (socket : SocketState) : SocketState :=
  { socket with endpoints := socket.endpoints ++ [endpoint] }

inductive GenerateOutcome where
  | ok
  | constructorThrows (e : Errno)
  | lingerThrows (e : Errno)
  | sndhwmThrows (e : Errno)
  deriving DecidableEq

def defaultHighWaterMark : Int := 10000000

/-- A socket whose option cannot be set stays open but is recorded nowhere. -/
def GenerateSocket (s : State) (name : String) (socketType : SocketType)
    (highWaterMark : Int) : GenerateOutcome -> State × Except Errno SocketId
  | .constructorThrows e => (s, .error e)
  | .lingerThrows e => (construct s socketType, .error e)
  | .sndhwmThrows e =>
      (configure (construct s socketType) s.nextSocket (setLinger 0), .error e)
  | .ok =>
      let t := configure (construct s socketType) s.nextSocket (setLinger 0)
      let t := configure t s.nextSocket (setSndhwm highWaterMark)
      ({ t with
          numberOfActiveSockets := t.numberOfActiveSockets + 1
          allSockets := t.allSockets ++ [(s.nextSocket, name)] },
        .ok s.nextSocket)

def DestroySocket (s : State) : Option SocketId -> State
  | none => s
  | some socket =>
      { s with
        numberOfActiveSockets := s.numberOfActiveSockets - 1
        allSockets := s.allSockets.filter (fun entry => entry.1 ≠ socket)
        openSockets := s.openSockets.filter (fun other => other ≠ socket) }

/-!
## What the operations do to the registry
-/

@[simp] theorem configure_liveSockets (s : State) (socket : SocketId)
    (change : SocketState -> SocketState) :
    (configure s socket change).liveSockets = s.liveSockets := rfl

@[simp] theorem configure_nextSocket (s : State) (socket : SocketId)
    (change : SocketState -> SocketState) :
    (configure s socket change).nextSocket = s.nextSocket := rfl

@[simp] theorem configure_running (s : State) (socket : SocketId)
    (change : SocketState -> SocketState) :
    (configure s socket change).running = s.running := rfl

theorem mem_liveSockets_DestroySocket {s : State} {pointer : Option SocketId}
    {socket : SocketId} :
    socket ∈ (DestroySocket s pointer).liveSockets <->
      socket ∈ s.liveSockets ∧ pointer ≠ some socket := by
  cases pointer with
  | none => simp [DestroySocket]
  | some destroyed =>
      simp only [DestroySocket, State.liveSockets, List.mem_map,
        List.mem_filter, decide_eq_true_eq, ne_eq, Option.some.injEq]
      constructor
      · rintro ⟨entry, ⟨hentry, hne⟩, rfl⟩
        exact ⟨⟨entry, hentry, rfl⟩, fun h => hne h.symm⟩
      · rintro ⟨⟨entry, hentry, rfl⟩, hne⟩
        exact ⟨entry, ⟨hentry, fun h => hne h.symm⟩, rfl⟩

theorem GenerateSocket_ok (s : State) (name : String) (socketType : SocketType)
    (highWaterMark : Int) :
    exists t, GenerateSocket s name socketType highWaterMark .ok =
        (t, .ok s.nextSocket) ∧
      t.liveSockets = s.liveSockets ++ [s.nextSocket] ∧
      t.nextSocket = s.nextSocket + 1 := by
  refine ⟨_, rfl, ?_, rfl⟩
  exact List.map_append

/-- A call that throws records nothing, but may use up a number. -/
theorem GenerateSocket_throws (s : State) (name : String)
    (socketType : SocketType) (highWaterMark : Int) {outcome : GenerateOutcome}
    (h : outcome ≠ .ok) :
    exists t e, GenerateSocket s name socketType highWaterMark outcome =
        (t, .error e) ∧
      t.liveSockets = s.liveSockets ∧ s.nextSocket ≤ t.nextSocket := by
  cases outcome with
  | ok => exact absurd rfl h
  | constructorThrows e => exact ⟨_, e, rfl, rfl, Nat.le_refl _⟩
  | lingerThrows e => exact ⟨_, e, rfl, rfl, Nat.le_succ _⟩
  | sndhwmThrows e => exact ⟨_, e, rfl, rfl, Nat.le_succ _⟩

theorem GenerateSocket_allSockets (s : State) (name : String)
    (socketType : SocketType) (highWaterMark : Int)
    (outcome : GenerateOutcome) :
    (GenerateSocket s name socketType highWaterMark outcome).1.allSockets =
      s.allSockets ++ if outcome = .ok then [(s.nextSocket, name)] else [] := by
  cases outcome with
  | ok => rfl
  | _ => exact (List.append_nil _).symm

theorem GenerateSocket_sockets (s : State) (name : String)
    (socketType : SocketType) (highWaterMark : Int) (outcome : GenerateOutcome)
    {socket : SocketId} (h : socket < s.nextSocket) :
    (GenerateSocket s name socketType highWaterMark outcome).1.sockets socket =
      s.sockets socket := by
  have hne : socket ≠ s.nextSocket := Nat.ne_of_lt h
  cases outcome <;>
    simp [GenerateSocket, configure, construct, Function.update_of_ne hne]

theorem GenerateSocket_nextSocket (s : State) (name : String)
    (socketType : SocketType) (highWaterMark : Int)
    (outcome : GenerateOutcome) : s.nextSocket ≤
      (GenerateSocket s name socketType highWaterMark outcome).1.nextSocket := by
  cases outcome with
  | constructorThrows e => exact Nat.le_refl _
  | _ => exact Nat.le_succ _

theorem GenerateSocket_holds (s : State) (name : String)
    (socketType : SocketType) (highWaterMark : Int) (outcome : GenerateOutcome)
    {socket : SocketId} {endpoint : Endpoint}
    (h : (GenerateSocket s name socketType highWaterMark outcome).1.Holds socket
      endpoint) : s.Holds socket endpoint := by
  cases outcome with
  | constructorThrows e => exact h
  | _ =>
      rcases h with ⟨hopen, hendpoint⟩
      have hne : socket ≠ s.nextSocket := by
        intro heq
        rw [heq] at hendpoint
        simp [GenerateSocket, configure, construct, setLinger, setSndhwm,
          SocketState.fresh] at hendpoint
      constructor
      · exact (List.mem_append.mp hopen).resolve_right
          (fun hnew => hne (List.mem_singleton.mp hnew))
      · simpa [GenerateSocket, configure, construct,
          Function.update_of_ne hne] using hendpoint

/-!
## Sockets that stay what they are
-/

structure Grows (s s' : State) : Prop where
  next : s.nextSocket ≤ s'.nextSocket
  timeout : forall socket, socket < s.nextSocket ->
    (s'.sockets socket).rcvtimeo = (s.sockets socket).rcvtimeo
  endpoints : forall socket, socket < s.nextSocket ->
    (s.sockets socket).endpoints ⊆ (s'.sockets socket).endpoints
  fresh : forall socket, s.nextSocket ≤ socket -> socket < s'.nextSocket ->
    (s'.sockets socket).rcvtimeo = -1

theorem Grows.of_sockets {s s' : State} (hnext : s'.nextSocket = s.nextSocket)
    (hsockets : s'.sockets = s.sockets) : Grows s s' := by
  constructor
  · exact Nat.le_of_eq hnext.symm
  · intro socket _
    rw [hsockets]
  · intro socket _
    rw [hsockets]
    exact List.Subset.refl _
  · intro socket hle hlt
    rw [hnext] at hlt
    exact absurd hlt (Nat.not_lt_of_le hle)

theorem Grows.refl (s : State) : Grows s s :=
  Grows.of_sockets rfl rfl

theorem Grows.trans {s s' s'' : State} (h : Grows s s') (h' : Grows s' s'') :
    Grows s s'' := by
  constructor
  · exact Nat.le_trans h.next h'.next
  · intro socket hold
    rw [h'.timeout socket (Nat.lt_of_lt_of_le hold h.next)]
    exact h.timeout socket hold
  · intro socket hold
    exact List.Subset.trans (h.endpoints socket hold)
      (h'.endpoints socket (Nat.lt_of_lt_of_le hold h.next))
  · intro socket hnew hlt
    by_cases hfirst : socket < s'.nextSocket
    · rw [h'.timeout socket hfirst]
      exact h.fresh socket hnew hfirst
    · exact h'.fresh socket (Nat.le_of_not_lt hfirst) hlt

theorem addEndpoint_grows (s : State) (socket : SocketId)
    (endpoint : Endpoint) :
    Grows s (configure s socket (addEndpoint endpoint)) := by
  constructor
  · exact Nat.le_refl _
  · intro other _
    by_cases hother : other = socket
    · simp [configure, addEndpoint, hother]
    · simp [configure, Function.update_of_ne hother]
  · intro other _
    by_cases hother : other = socket
    · simp [configure, addEndpoint, hother]
    · simp [configure, Function.update_of_ne hother]
  · intro other hle hlt
    exact absurd hlt (Nat.not_lt_of_le hle)

theorem GenerateSocket_grows (s : State) (name : String)
    (socketType : SocketType) (highWaterMark : Int)
    (outcome : GenerateOutcome) :
    Grows s (GenerateSocket s name socketType highWaterMark outcome).1 := by
  have hsame : forall socket, socket < s.nextSocket ->
      (GenerateSocket s name socketType highWaterMark outcome).1.sockets socket =
        s.sockets socket := fun _ hold =>
    GenerateSocket_sockets s name socketType highWaterMark outcome hold
  constructor
  · exact GenerateSocket_nextSocket s name socketType highWaterMark outcome
  · intro socket hold
    rw [hsame socket hold]
  · intro socket hold
    rw [hsame socket hold]
    exact List.Subset.refl _
  · intro socket hnew hlt
    cases outcome with
    | constructorThrows e => exact absurd hlt (Nat.not_lt_of_le hnew)
    | _ =>
        have hnext : socket = s.nextSocket :=
          Nat.le_antisymm (Nat.le_of_lt_succ hlt) hnew
        rw [hnext]
        simp [GenerateSocket, configure, construct, setLinger, setSndhwm,
          SocketState.fresh]

end ZMQHandler
end Socket
end FarmNetworking
