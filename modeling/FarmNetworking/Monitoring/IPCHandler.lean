import FarmNetworking.Foundation.ByteString
import FarmNetworking.Socket.ZMQHandler

/-!
# The IPC handler

Three channels connect a farm process with the process that controls it: states,
statistics and commands.  Each end of a channel is a static pointer to a ZMQ
socket.  The farm process is the client, its peer the server, and either role
has three sockets that are created together by the first operation that needs
one of them.

What the library calls inside an operation do is part of the label.  Another
thread may call `ZMQHandler::Stop` before either of the tests of `IsRunning`.
-/

namespace FarmNetworking
namespace Monitoring
namespace IPCHandler

open Foundation ByteString
open Socket ZMQHandler

inductive Slot where
  | stateSender
  | statisticsSender
  | commandSender
  | stateReceiver
  | statisticsReceiver
  | commandReceiver
  deriving DecidableEq

/-- The enumeration is read from memory and so can hold any 32-bit value. -/
abbrev STATE := UInt32

def OFF : STATE := 0
def INITIALIZING : STATE := 1
def RUNNING : STATE := 2
def ERROR : STATE := 3
def TIMEOUT : STATE := 4

inductive Call where
  | attach
  | send
  | recv
  | setsockopt
  | destroy
  deriving DecidableEq

/-- A call through a pointer, with the socket as it was when the call was made. -/
structure Use where
  call : Call
  slot : Slot
  socket : SocketId
  live : Bool
  state : SocketState
  deriving DecidableEq

/-- The last two fields are history that the code does not store. -/
structure State where
  zmq : ZMQHandler.State
  pointer : Slot -> Option SocketId
  active : Slot -> Bool
  crashed : Bool
  uses : List Use
  sent : List (SocketId × List UInt8)

def State.initial : State where
  zmq := ZMQHandler.State.initial
  pointer := fun _ => none
  active := fun _ => false
  crashed := false
  uses := []
  sent := []

/-!
## Labels
-/

/-- What the library calls up to the end of a reconnect do. -/
structure Calls where
  stop : Bool
  stopConnect : Bool
  generate : Slot -> GenerateOutcome
  attach : Slot -> Option Errno

def Calls.succeed : Calls where
  stop := false
  stopConnect := false
  generate := fun _ => .ok
  attach := fun _ => none

inductive SendOutcome where
  | queued
  | again
  | error (e : Errno)
  deriving DecidableEq

/--
A receive delivers a message, times out, or throws.  `behind` is what follows the
message in memory.
-/
inductive RecvOutcome where
  | message (data behind : List UInt8)
  | again
  | error (e : Errno)
  deriving DecidableEq

/-!
## Calls through a pointer
-/

def State.log (s : State) (call : Call) (slot : Slot) (socket : SocketId) :
    State :=
  { s with
    uses := s.uses ++ [{
      call := call
      slot := slot
      socket := socket
      live := decide (socket ∈ s.zmq.liveSockets)
      state := s.zmq.sockets socket }] }

/-- The dereference of a null pointer ends the process. -/
def State.use (s : State) (call : Call) (slot : Slot) : State :=
  match s.pointer slot with
  | none => { s with crashed := true }
  | some socket => s.log call slot socket

/-- `ZMQHandler::DestroySocket` ignores a null pointer. -/
def State.destroy (s : State) (slot : Slot) : State :=
  match s.pointer slot with
  | none => s
  | some socket =>
      { s.log .destroy slot socket with
        zmq := DestroySocket s.zmq (some socket) }

def State.setActive (s : State) (slot : Slot) (up : Bool) : State :=
  { s with active := Function.update s.active slot up }

def State.drop (s : State) (slot : Slot) : State :=
  { s.destroy slot with pointer := Function.update s.pointer slot none }

/-- The handler of a `zmq::error_t` in four of the operations. -/
def State.failed (s : State) (slot : Slot) (e : Errno) : State :=
  if e ≠ EINTR then s.drop slot else s

/-- The rest of a send whose pointer has been dereferenced. -/
def State.transmit (s : State) (slot : Slot) (message : List UInt8) : State :=
  match s.pointer slot with
  | none => s
  | some socket => { s with sent := s.sent ++ [(socket, message)] }

def State.configure (s : State) (slot : Slot)
    (change : SocketState -> SocketState) : State :=
  match s.pointer slot with
  | none => s
  | some socket => { s with zmq := ZMQHandler.configure s.zmq socket change }

/-!
## Connecting
-/

/-- The arguments of `GenerateSocket` and of the `connect` or `bind` behind it. -/
structure Channel where
  slot : Slot
  name : String
  socketType : SocketType
  endpoint : Endpoint

def clientChannels : List Channel := [
  { slot := .stateSender, name := "stateSender_", socketType := .push,
    endpoint := .connected "tcp://127.0.0.1:4500" },
  { slot := .statisticsSender, name := "statisticsSender_", socketType := .push,
    endpoint := .connected "tcp://127.0.0.1:4501" },
  { slot := .commandReceiver, name := "commandReceiver_", socketType := .pull,
    endpoint := .bound "tcp://*:4502" }]

def serverChannels : List Channel := [
  { slot := .stateReceiver, name := "stateReceiver_", socketType := .pull,
    endpoint := .bound "tcp://*:4500" },
  { slot := .statisticsReceiver, name := "statisticsReceiver_",
    socketType := .pull, endpoint := .bound "tcp://*:4501" },
  { slot := .commandSender, name := "commandSender_", socketType := .push,
    endpoint := .connected "tcp://127.0.0.1:4502" }]

/-- `ZMQHandler::IsRunning`, after another thread has possibly called `Stop`. -/
def State.interrupt (s : State) (stop : Bool) : State :=
  if stop then { s with zmq := Stop s.zmq } else s

/-- The assignments at the beginning of the `try` block. -/
def generateAll (generate : Slot -> GenerateOutcome) :
    List Channel -> State -> Bool × State
  | [], s => (true, s)
  | c :: rest, s =>
      match GenerateSocket s.zmq c.name c.socketType defaultHighWaterMark
        (generate c.slot) with
      | (zmq, .error _) => (false, { s with zmq := zmq })
      | (zmq, .ok socket) =>
          generateAll generate rest
            { s with
              zmq := zmq
              pointer := Function.update s.pointer c.slot (some socket) }

/-- The calls of `connect` and `bind` at its end. -/
def attachAll (attach : Slot -> Option Errno) :
    List Channel -> State -> Bool × State
  | [], s => (true, s)
  | c :: rest, s =>
      let s := s.use .attach c.slot
      if s.crashed then (false, s)
      else
        match attach c.slot with
        | some _ => (false, s)
        | none =>
            attachAll attach rest (s.configure c.slot (addEndpoint c.endpoint))

def connectRole (channels : List Channel) (calls : Calls) (s : State) :
    Bool × State :=
  let s := s.interrupt calls.stopConnect
  if !s.zmq.running then (false, s)
  else
    match generateAll calls.generate channels s with
    | (false, s) => (false, s)
    | (true, s) => attachAll calls.attach channels s

def connectClient (calls : Calls) (s : State) : Bool × State :=
  connectRole clientChannels calls s

def bindServer (calls : Calls) (s : State) : Bool × State :=
  connectRole serverChannels calls s

/-- `pointer || connect()`, the way past the second test of an operation. -/
def ensure (connect : Calls -> State -> Bool × State) (slot : Slot)
    (calls : Calls) (s : State) : Bool × State :=
  match s.pointer slot with
  | some _ => (true, s)
  | none => connect calls s

def enter (connect : Calls -> State -> Bool × State) (slot : Slot)
    (calls : Calls) (s : State) : Bool × State :=
  let s := s.interrupt calls.stop
  if !s.zmq.running then (false, s) else ensure connect slot calls s

/-!
## The operations
-/

def setTimeout (s : State) (timeout : Int) (calls : Calls)
    (first second : Option Errno) : State :=
  match ensure bindServer .statisticsReceiver calls s with
  | (false, s) => s
  | (true, s) =>
      let s := s.use .setsockopt .statisticsReceiver
      if s.crashed || first.isSome then s
      else
        let s := s.configure .statisticsReceiver (setRcvtimeo timeout)
        let s := s.use .setsockopt .stateReceiver
        if s.crashed || second.isSome then s
        else s.configure .stateReceiver (setRcvtimeo timeout)

def updateState (s : State) (newState : STATE) (calls : Calls)
    (outcome : SendOutcome) : State :=
  match enter connectClient .stateSender calls s with
  | (false, s) => s
  | (true, s) =>
      let s := s.use .send .stateSender
      if s.crashed then s
      else
        match outcome with
        | .queued => s.transmit .stateSender (leBytes 4 newState.toNat)
        | .again => s
        | .error _ => s

/-- The constructor of the message can throw as well. -/
def sendStatistics (s : State) (name values : List UInt8) (calls : Calls)
    (allocation : Option Errno) (outcome : SendOutcome) : State :=
  match enter connectClient .statisticsSender calls s with
  | (false, s) => s
  | (true, s) =>
      if s.pointer .statisticsSender = none || name.isEmpty || values.isEmpty
        || allocation.isSome then s
      else
        let s := s.use .send .statisticsSender
        match outcome with
        | .queued => s.transmit .statisticsSender (name ++ 58 :: values)
        | .again => s
        | .error _ => s

def sendErrorMessage (s : State) (message : List UInt8) (calls : Calls)
    (allocation : Option Errno) (outcome : SendOutcome) : State :=
  sendStatistics s [69, 114, 114, 111, 114, 77, 101, 115, 115, 97, 103, 101]
    message calls allocation outcome

def sendCommand (s : State) (command : List UInt8) (calls : Calls)
    (connected : Bool) (outcome : SendOutcome) : State :=
  match enter bindServer .commandSender calls s with
  | (false, s) => s
  | (true, s) =>
      if s.pointer .commandSender = none || command.isEmpty || !connected then s
      else
        let s := s.use .send .commandSender
        match outcome with
        | .queued => s.transmit .commandSender command
        | .again => s
        | .error e => s.failed .commandSender e

/-- The flag comes down behind `recv`, whatever `recv` returns. -/
def getNextCommand (s : State) (calls : Calls) (outcome : RecvOutcome) :
    State × List UInt8 :=
  match enter connectClient .commandReceiver calls s with
  | (false, s) => (s, [])
  | (true, s) =>
      let s := (s.setActive .commandReceiver true).use .recv .commandReceiver
      if s.crashed then (s, [])
      else
        match outcome with
        | .message data _ => (s.setActive .commandReceiver false, data)
        | .again => (s.setActive .commandReceiver false, [])
        | .error e => (s.failed .commandReceiver e, [])

/-- The flag comes down behind the `if`, which a message leaves by its return. -/
def tryToReceiveStatistics (s : State) (calls : Calls) (outcome : RecvOutcome) :
    State × List UInt8 :=
  match enter bindServer .statisticsReceiver calls s with
  | (false, s) => (s, [])
  | (true, s) =>
      let s := (s.setActive .statisticsReceiver true).use .recv
        .statisticsReceiver
      if s.crashed then (s, [])
      else
        match outcome with
        | .message data _ => (s, data)
        | .again => (s.setActive .statisticsReceiver false, [])
        | .error e => (s.failed .statisticsReceiver e, [])

/-- Four bytes are read from the message, whatever its size. -/
def readState (data behind : List UInt8) : STATE :=
  UInt32.ofNat (leNat ((data ++ behind).take 4))

def tryToReceiveState (s : State) (calls : Calls) (outcome : RecvOutcome) :
    State × STATE :=
  match enter bindServer .stateReceiver calls s with
  | (false, s) => (s, TIMEOUT)
  | (true, s) =>
      let s := (s.setActive .stateReceiver true).use .recv .stateReceiver
      if s.crashed then (s, TIMEOUT)
      else
        match outcome with
        | .message data behind => (s, readState data behind)
        | .again => (s.setActive .stateReceiver false, TIMEOUT)
        | .error e => (s.failed .stateReceiver e, TIMEOUT)

/-- A socket whose flag is up is left alone, and no pointer is set to null. -/
def closeInactive (s : State) (slot : Slot) : State :=
  if s.active slot then s else s.destroy slot

def shutDownOrder : List Slot :=
  [.stateSender, .statisticsSender, .commandSender, .stateReceiver,
    .statisticsReceiver, .commandReceiver]

def shutDown (s : State) : State :=
  shutDownOrder.foldl closeInactive s

/-!
## Runs
-/

inductive Operation where
  | updateState (newState : STATE) (calls : Calls) (outcome : SendOutcome)
  | sendErrorMessage (message : List UInt8) (calls : Calls)
      (allocation : Option Errno) (outcome : SendOutcome)
  | sendStatistics (name values : List UInt8) (calls : Calls)
      (allocation : Option Errno) (outcome : SendOutcome)
  | sendCommand (command : List UInt8) (calls : Calls) (connected : Bool)
      (outcome : SendOutcome)
  | getNextCommand (calls : Calls) (outcome : RecvOutcome)
  | tryToReceiveStatistics (calls : Calls) (outcome : RecvOutcome)
  | tryToReceiveState (calls : Calls) (outcome : RecvOutcome)
  | setTimeout (timeout : Int) (calls : Calls) (first second : Option Errno)
  | shutDown

def perform (s : State) : Operation -> State
  | .updateState newState calls outcome => updateState s newState calls outcome
  | .sendErrorMessage message calls allocation outcome =>
      sendErrorMessage s message calls allocation outcome
  | .sendStatistics name values calls allocation outcome =>
      sendStatistics s name values calls allocation outcome
  | .sendCommand command calls connected outcome =>
      sendCommand s command calls connected outcome
  | .getNextCommand calls outcome => (getNextCommand s calls outcome).1
  | .tryToReceiveStatistics calls outcome =>
      (tryToReceiveStatistics s calls outcome).1
  | .tryToReceiveState calls outcome => (tryToReceiveState s calls outcome).1
  | .setTimeout timeout calls first second =>
      setTimeout s timeout calls first second
  | .shutDown => shutDown s

/-- A process that has crashed does nothing more. -/
def step (s : State) (op : Operation) : State :=
  if s.crashed then s else perform s op

inductive Returned where
  | text (data : List UInt8)
  | state (value : STATE)
  deriving DecidableEq

/-- The other operations return nothing, nor does a process that crashes. -/
def returned? (s : State) (op : Operation) : Option Returned :=
  if (step s op).crashed then none
  else
    match op with
    | .getNextCommand calls outcome =>
        some (.text (getNextCommand s calls outcome).2)
    | .tryToReceiveStatistics calls outcome =>
        some (.text (tryToReceiveStatistics s calls outcome).2)
    | .tryToReceiveState calls outcome =>
        some (.state (tryToReceiveState s calls outcome).2)
    | _ => none

end IPCHandler
end Monitoring
end FarmNetworking
