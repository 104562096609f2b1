import FarmNetworking.Foundation.Mutex
import FarmNetworking.Foundation.Runs
import FarmNetworking.Socket.ZMQHandler

/-!
# Connecting sockets inside the process

`BindInproc` binds a socket and puts its address into `boundAddresses_`, and
`ConnectInproc` waits until an address is there.  Any number of threads are inside
of these two at once.  A call is cut where it takes or gives back `connectMutex_`,
and at its calls of the library.
-/

namespace FarmNetworking
namespace Socket
namespace Inproc

open Foundation Runs
open ZMQHandler

inductive Pc where
  | idle
  /-- At the call of `bind`. -/
  | binding (socket : SocketId) (address : String)
  /-- At the construction of the `lock_guard`, with the socket bound. -/
  | guarding (socket : SocketId) (address : String)
  /-- At the insertion. -/
  | inserting (socket : SocketId) (address : String)
  /-- At the destruction of the `lock_guard`. -/
  | unguarding
  /-- At one of the two calls of `lock`. -/
  | locking (socket : SocketId) (address : String)
  /-- At the test of the loop. -/
  | looking (socket : SocketId) (address : String)
  /-- At the `unlock` inside the loop. -/
  | unlocking (socket : SocketId) (address : String)
  | sleeping (socket : SocketId) (address : String)
  /-- At the call of `connect`. -/
  | connecting (socket : SocketId) (address : String)
  /-- At the `unlock` behind it. -/
  | leaving
  deriving DecidableEq

/-- From behind the `lock` up to the `unlock`. -/
def Pc.critical : Pc -> Bool
  | .inserting _ _ => true
  | .unguarding => true
  | .looking _ _ => true
  | .unlocking _ _ => true
  | .connecting _ _ => true
  | .leaving => true
  | _ => false

def LiveBinder (zmq : ZMQHandler.State) (address : String) : Prop :=
  exists socket, socket ∈ zmq.liveSockets ∧
    Endpoint.bound address ∈ (zmq.sockets socket).endpoints

instance LiveBinder.decidable (zmq : ZMQHandler.State) (address : String) :
    Decidable (LiveBinder zmq address) := by
  unfold LiveBinder
  infer_instance

structure Connect where
  socket : SocketId
  address : String
  bound : Bool
  deriving DecidableEq

/-- The calls of `connect` are history that the code does not store. -/
structure State (thread : Type*) where
  zmq : ZMQHandler.State
  boundAddresses : List String
  connectMutex : Mutex thread
  pc : thread -> Pc
  connects : List Connect

section System

variable {thread : Type*}

def State.initial : State thread where
  zmq := ZMQHandler.State.initial
  boundAddresses := []
  connectMutex := Mutex.free
  pc := fun _ => .idle
  connects := []

def State.critical (s : State thread) (t : thread) : Bool :=
  (s.pc t).critical

variable [DecidableEq thread]

def State.goto (s : State thread) (t : thread) (pc : Pc) : State thread :=
  { s with pc := Function.update s.pc t pc }

/-- A thread waits as long as another one has the mutex, or it has it itself. -/
def State.lock (s : State thread) (t : thread) (pc : Pc) : State thread :=
  match s.connectMutex.holder with
  | some _ => s
  | none => { s.goto t pc with connectMutex := s.connectMutex.acquire t }

def State.unlock (s : State thread) (t : thread) (pc : Pc) : State thread :=
  { s.goto t pc with connectMutex := s.connectMutex.unlock t }

/-- The library is free to throw, with any error number. -/
def State.bind (s : State thread) (t : thread) (socket : SocketId)
    (address : String) : Option Errno -> State thread
  | some _ => s.goto t .idle
  | none =>
      { s.goto t (.guarding socket address) with
        zmq := configure s.zmq socket (addEndpoint (.bound address)) }

/-- An exception leaves the function before its last line. -/
def State.connect (s : State thread) (t : thread) (socket : SocketId)
    (address : String) (error : Option Errno) : State thread :=
  let call : Connect := {
    socket := socket
    address := address
    bound := decide (LiveBinder s.zmq address) }
  match error with
  | some _ => { s.goto t .idle with connects := s.connects ++ [call] }
  | none =>
      { s.goto t .leaving with
        zmq := configure s.zmq socket (addEndpoint (.connected address))
        connects := s.connects ++ [call] }

/-- The next step of a call.  The number is what `bind` or `connect` throws. -/
def proceed (s : State thread) (t : thread) (error : Option Errno) :
    State thread :=
  match s.pc t with
  | .idle => s
  -- `BindInproc`
  | .binding socket address => s.bind t socket address error
  | .guarding socket address => s.lock t (.inserting socket address)
  | .inserting _ address =>
      { s.goto t .unguarding with
        boundAddresses := s.boundAddresses.insert address }
  | .unguarding => s.unlock t .idle
  -- `ConnectInproc`
  | .locking socket address => s.lock t (.looking socket address)
  | .looking socket address =>
      if address ∈ s.boundAddresses then s.goto t (.connecting socket address)
      else s.goto t (.unlocking socket address)
  | .unlocking socket address => s.unlock t (.sleeping socket address)
  | .sleeping socket address => s.goto t (.locking socket address)
  | .connecting socket address => s.connect t socket address error
  | .leaving => s.unlock t .idle

inductive Action (thread : Type*) where
  | GenerateSocket (t : thread) (name : String) (socketType : SocketType)
      (highWaterMark : Int) (outcome : GenerateOutcome)
  | DestroySocket (t : thread) (pointer : Option SocketId)
  | BindInproc (t : thread) (socket : SocketId) (address : String)
  | ConnectInproc (t : thread) (socket : SocketId) (address : String)
  | proceed (t : thread) (error : Option Errno)

/--
A thread calls a function only if it is not inside another one, and only with a
socket that exists or has existed.
-/
def step (s : State thread) : Action thread -> State thread
  | .GenerateSocket t name socketType highWaterMark outcome =>
      if s.pc t = .idle then
        { s with
          zmq := (GenerateSocket s.zmq name socketType highWaterMark outcome).1 }
      else s
  | .DestroySocket t pointer =>
      if s.pc t = .idle then { s with zmq := DestroySocket s.zmq pointer }
      else s
  | .BindInproc t socket address =>
      if s.pc t = .idle ∧ socket < s.zmq.nextSocket then
        s.goto t (.binding socket address)
      else s
  | .ConnectInproc t socket address =>
      if s.pc t = .idle ∧ socket < s.zmq.nextSocket then
        s.goto t (.locking socket address)
      else s
  | .proceed t error => proceed s t error

end System

end Inproc
end Socket
end FarmNetworking
