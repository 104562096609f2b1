import FarmNetworking.Structs.Network

/-!
# The DIM listener

The class of `dim/DimListener`: six subscribed services, a list of callbacks for
each of them, and one handler that DIM calls with the service that has changed.
DIM itself is not modelled; a service shows the handler the content it last
received, or the value given to its constructor while there is no link.
-/

namespace FarmNetworking
namespace Dim

open Foundation ByteString
open Structs

inductive Number where
  | nextBurstNumber
  | burstNumber
  | runNumber
  | sob
  | eob
  deriving DecidableEq

/-- What `getInfo` can return. -/
inductive Service where
  | number (n : Number)
  | burstTimeInfo
  deriving DecidableEq

structure BurstTimeInfo where
  burstID : Int32
  sobTime : Int32
  eobTime : Int32
  runNumber : Int32
  deriving DecidableEq

/-- The bytes of a received content, and the memory that follows them. -/
structure Payload where
  bytes : List UInt8
  behind : List UInt8
  deriving DecidableEq

def Payload.memory (p : Payload) : List UInt8 :=
  p.bytes ++ p.behind

structure DimListener (callback : Type) where
  nextBurstNumber_ : Int32
  burstNumber_ : Int32
  runNumber_ : Int32
  sobTS_ : Int32
  eobTS_ : Int32
  burstTimeInfo_ : Payload
  eobCallbacks : List callback
  sobCallbacks : List callback
  runNumberCallbacks : List callback
  burstNumberCallbacks : List callback
  nextBurstNumberCallbacks : List callback
  burstTimeInfoCallbacks : List callback

inductive Call (callback : Type) where
  | number (c : callback) (value : UInt32)
  | burstTimeInfo (c : callback) (info : BurstTimeInfo)
  deriving DecidableEq

/-- What one run of the handler does: its calls, and how far it reads the data. -/
structure Handled (callback : Type) where
  calls : List (Call callback)
  bytesRead : Nat

/-- The values that the constructor gives to the integer services. -/
def noLink : Number -> Int32
  | .nextBurstNumber => -1
  | .burstNumber => -1
  | .runNumber => -1
  | .sob => 0
  | .eob => 0

/-- `rawbti[i]`, in the byte order of the host, and where the bytes of it end. -/
def rawbti (data : List UInt8) (i : Nat) : Int32 × Nat :=
  ((leUInt32 (data.drop (4 * i))).toInt32, 4 * i + 4)

def readBurstTime (data : List UInt8) : BurstTimeInfo × Nat :=
  let (burstID, first) := rawbti data 0
  let (sobTime, second) := rawbti data 1
  let (eobTime, third) := rawbti data 2
  let (runNumber, fourth) := rawbti data 3
  ({ burstID := burstID
     sobTime := sobTime
     eobTime := eobTime
     runNumber := runNumber },
    max (max first second) (max third fourth))

def decodeBurstTime (data : List UInt8) : BurstTimeInfo :=
  (readBurstTime data).1

theorem readBurstTime_bytesRead (data : List UInt8) :
    (readBurstTime data).2 = 16 := rfl

namespace DimListener

variable {callback : Type}

def initial : DimListener callback where
  nextBurstNumber_ := noLink .nextBurstNumber
  burstNumber_ := noLink .burstNumber
  runNumber_ := noLink .runNumber
  sobTS_ := noLink .sob
  eobTS_ := noLink .eob
  burstTimeInfo_ := { bytes := [], behind := [] }
  eobCallbacks := []
  sobCallbacks := []
  runNumberCallbacks := []
  burstNumberCallbacks := []
  nextBurstNumberCallbacks := []
  burstTimeInfoCallbacks := []

section Registration

variable (l : DimListener callback) (c : callback)

def registerEobListener : DimListener callback :=
  { l with eobCallbacks := l.eobCallbacks ++ [c] }

def registerSobListener : DimListener callback :=
  { l with sobCallbacks := l.sobCallbacks ++ [c] }

def registerRunNumberListener : DimListener callback :=
  { l with runNumberCallbacks := l.runNumberCallbacks ++ [c] }

def registerBurstNumberListener : DimListener callback :=
  { l with burstNumberCallbacks := l.burstNumberCallbacks ++ [c] }

def registerNextBurstNumberListener : DimListener callback :=
  { l with nextBurstNumberCallbacks := l.nextBurstNumberCallbacks ++ [c] }

def registerBurstTimeInfoListener : DimListener callback :=
  { l with burstTimeInfoCallbacks := l.burstTimeInfoCallbacks ++ [c] }

end Registration

def callAll (callbacks : List callback) (value : Int32) : Handled callback where
  calls := callbacks.map fun c => .number c value.toUInt32
  bytesRead := 0

def infoHandler (l : DimListener callback) (curr : Service) : Handled callback :=
  match curr with
  | .number .eob => callAll l.eobCallbacks l.eobTS_
  | .number .sob => callAll l.sobCallbacks l.sobTS_
  | .number .runNumber => callAll l.runNumberCallbacks l.runNumber_
  | .number .burstNumber => callAll l.burstNumberCallbacks l.burstNumber_
  | .number .nextBurstNumber =>
      callAll l.nextBurstNumberCallbacks l.nextBurstNumber_
  | .burstTimeInfo =>
      if l.burstTimeInfo_.bytes.length ≠ 0 then
        -- four integers are read, whatever the size
        let (bti, bytesRead) := readBurstTime l.burstTimeInfo_.memory
        { calls :=
            if bti.eobTime ≠ 0 ∧ bti.runNumber ≠ 0 then
              l.burstTimeInfoCallbacks.map fun c => .burstTimeInfo c bti
            else []
          bytesRead := bytesRead }
      else { calls := [], bytesRead := 0 }

end DimListener

end Dim
end FarmNetworking
