import FarmNetworking.L1.MRP
import FarmNetworking.Socket.EthernetUtils

/-!
# The L1 distribution handler

The functions of `l1/L1DistributionHandler.cpp` that run to completion on their
own: building a trigger block, configuring the endpoint templates, and turning a
batch of triggers into one frame per endpoint.  The loop that collects batches is
modelled in `FarmNetworking.L1.Sender`.
-/

namespace FarmNetworking
namespace L1

open Foundation ByteString
open Structs Socket EthernetUtils

/-- What the handler reads of an event. -/
structure Event where
  timestamp : UInt32
  finetime : UInt8
  triggerTypeWord : UInt16
  eventNumber : UInt32
  deriving DecidableEq

def generateTriggerHDR (event : Event) (zSuppressed : Bool) : TriggerRawHDR where
  timestamp := htonl event.timestamp
  fineTime := event.finetime
  requestZeroSuppressed := if zSuppressed then 1 else 0
  triggerTypeWord := htons event.triggerTypeWord
  reserved2 := 0
  -- the shifted value is assigned to a bit-field of 24 bits
  eventNumber := BitVec.ofNat 24 (htonl event.eventNumber >>> 8).toNat

/-!
## Configuration

`Host` collects what `Initialize` takes from its surroundings: the addresses of
the network interface, the two string conversions of the C library, and the
content of memory that is read without having been written.  The conversion
`inetPton` is `none` on a malformed string, where the C function leaves its
destination untouched.
-/

structure Host where
  myMac : MacAddress
  myIP : UInt32
  inetAddr : String -> UInt32
  inetPton : String -> Option UInt32
  stackContent : Nat -> UInt32
  heapContent : Nat -> UInt8

structure Config where
  maxTriggersPerMRP : UInt32
  minUsecBetweenL1Requests : UInt32
  multicastGroupNames : List String
  unicastAddress : List String
  sourcePort : UInt32
  destinationPort : UInt32
  gatewayMAC : String

/-- The static members that are written by `Initialize`. -/
structure Templates where
  maxTriggersPerL1MRP : UInt32
  minUsecBetweenL1Requests : UInt32
  l1MulticastRequestHdrs : List MRPFrameHDR
  l1UnicastRequestHdrs : List MRPFrameHDR
  l1UnicastRequestHdr : Option MRPFrameHDR

def Templates.initial : Templates where
  maxTriggersPerL1MRP := 0
  minUsecBetweenL1Requests := 0
  l1MulticastRequestHdrs := []
  l1UnicastRequestHdrs := []
  l1UnicastRequestHdr := none

def makeTemplate (host : Host) (cfg : Config) (dMacAddr : Option MacAddress)
    (dIP : UInt32) : Except MRPFrameHDR MRPFrameHDR :=
  match generateUDP host.myMac host.myIP MRPFrameHDR.zero.udp dMacAddr dIP
      cfg.sourcePort.toUInt16 cfg.destinationPort.toUInt16 with
  | .error udp => .error { MRPFrameHDR.zero with udp := udp }
  | .ok udp =>
      .ok
        { udp := udp
          mrpHDR := { MRPFrameHDR.zero.mrpHDR with
            ipAddress := host.myIP
            reserved := 0 } }

/-!
Both loops append the new header to the list before they fill it.  A loop that
dies on a null hardware address therefore leaves the unfinished header behind;
the error value is the state at that moment.
-/

def initializeMulticast (host : Host) (cfg : Config) :
    List String -> Templates -> Except Templates Templates
  | [], t => .ok t
  | multicastIP :: rest, t =>
      let multicastGroup := host.inetAddr multicastIP
      match makeTemplate host cfg (some (generateMulticastMac multicastGroup))
          multicastGroup with
      | .error hdr =>
          .error { t with
            l1MulticastRequestHdrs := t.l1MulticastRequestHdrs ++ [hdr] }
      | .ok hdr =>
          initializeMulticast host cfg rest { t with
            l1MulticastRequestHdrs := t.l1MulticastRequestHdrs ++ [hdr] }

/-- The number counts the iterations, each with its own `caddress` variable. -/
def initializeUnicast (host : Host) (cfg : Config) :
    Nat -> List String -> Templates -> Except Templates Templates
  | _, [], t => .ok t
  | i, unicastAddr :: rest, t =>
      let sAddr := (host.inetPton unicastAddr).getD (host.stackContent i)
      match makeTemplate host cfg (stringToMAC cfg.gatewayMAC) sAddr with
      | .error hdr =>
          .error { t with
            l1UnicastRequestHdrs := t.l1UnicastRequestHdrs ++ [hdr] }
      | .ok hdr =>
          initializeUnicast host cfg (i + 1) rest { t with
            l1UnicastRequestHdrs := t.l1UnicastRequestHdrs ++ [hdr] }

def Initialize (host : Host) (cfg : Config) (t : Templates) :
    Except Templates Templates := do
  let t := { t with
    maxTriggersPerL1MRP := cfg.maxTriggersPerMRP
    minUsecBetweenL1Requests := cfg.minUsecBetweenL1Requests }
  let t <- initializeMulticast host cfg cfg.multicastGroupNames t
  let t <- initializeUnicast host cfg 0 cfg.unicastAddress t
  match makeTemplate host cfg (stringToMAC cfg.gatewayMAC) 0 with
  | .error hdr => .error { t with l1UnicastRequestHdr := some hdr }
  | .ok hdr => .ok { t with l1UnicastRequestHdr := some hdr }

/-!
## Sending a batch

A vector element is a pointer; `deref` gives the block it points to.  The vector
is consumed from its back, so the loop runs over the reversed list.
-/

/-- Local variables of `Async_SendMRP` while it empties the vector. -/
structure Filling (pointer : Type) where
  offset : Nat
  buff : List UInt8
  numberOfTriggers : UInt32
  /-- The triggers copied so far, in the order of their blocks. -/
  placed : List pointer
  /-- Whether some copy has run over the end of its destination. -/
  overrun : Bool

/-- What one call of `Async_SendMRP` leaves behind. -/
structure SentMRP (pointer : Type) where
  triggers : List pointer
  placed : List pointer
  numberOfTriggers : UInt32
  sizeOfMRP : UInt32
  frames : List (List UInt8)
  overrun : Bool

def freshBlock (host : Host) (size : Nat) : List UInt8 :=
  (List.range size).map host.heapContent

def fillLoop {pointer : Type} (max : UInt32) (deref : pointer -> TriggerRawHDR) :
    List pointer -> Filling pointer -> List pointer × Filling pointer
  | [], f => ([], f)
  | trigger :: stack, f =>
      if f.numberOfTriggers = max then (trigger :: stack, f)
      else
        fillLoop max deref stack
          { offset := f.offset + 12
            buff := copyAt f.buff f.offset (deref trigger).bytes
            numberOfTriggers := f.numberOfTriggers + 1
            placed := f.placed ++ [trigger]
            overrun := f.overrun || f.buff.length < f.offset + 12 }

/-- Set the lengths of the header in front of `payload` and the two checksums. -/
def finishHeader (sums : ChecksumFunctions) (hdr : MRPFrameHDR)
    (payload : List UInt8) (numberOfTriggers : UInt32) : MRPFrameHDR :=
  let hdr := hdr.setNumberOfTriggers numberOfTriggers.toUInt16
  let ip := { hdr.udp.ip with check := 0 }
  let ip := { ip with check := sums.generateChecksum ip.bytes 20 0 }
  let (udp, check) := generateUDPChecksum sums { hdr.udp with ip := ip }
    (hdr.mrpHDR.bytes ++ payload) hdr.mrpHDR.getSize.toUInt32
  { hdr with udp := { udp with udp := { udp.udp with check := check } } }

/--
One iteration of the loops over the templates.  The second copy overwrites the
front of the frame; the header is then edited in place through a cast.
-/
def buildFrame (host : Host) (sums : ChecksumFunctions) (buff : List UInt8)
    (offset : Nat) (numberOfTriggers : UInt32) (dataHDR : MRPFrameHDR) :
    List UInt8 :=
  let frame := copyAt (freshBlock host offset) 0 (buff.take offset)
  let frame := copyAt frame 0 dataHDR.bytes
  let payload := frame.drop 54
  (finishHeader sums (MRPFrameHDR.ofBytes frame) payload
    numberOfTriggers).bytes ++ payload

def asyncSendMRP {pointer : Type} (host : Host) (sums : ChecksumFunctions)
    (t : Templates) (deref : pointer -> TriggerRawHDR)
    (triggers : List pointer) : SentMRP pointer :=
  let max := t.maxTriggersPerL1MRP
  let sizeOfMRP := UInt32.ofNat (54 + 12 *
    (if max.toNat < triggers.length then max.toNat else triggers.length))
  let (stack, f) := fillLoop max deref triggers.reverse
    { offset := 54
      buff := freshBlock host sizeOfMRP.toNat
      numberOfTriggers := 0
      placed := []
      overrun := false }
  { triggers := stack.reverse
    placed := f.placed
    numberOfTriggers := f.numberOfTriggers
    sizeOfMRP := sizeOfMRP
    frames := (t.l1UnicastRequestHdrs ++ t.l1MulticastRequestHdrs).map
      (buildFrame host sums f.buff f.offset f.numberOfTriggers)
    -- copying `offset` bytes out of a shorter buffer is an overrun as well
    overrun := f.overrun || f.buff.length < f.offset }

end L1
end FarmNetworking
