import FarmNetworking.Socket.PFringHandler

/-!
# ARP frames

The ARP generators of `socket/EthernetUtils.h`, and the frame that the PF_RING
back end puts on the wire for them.  A receiver reads the frame at fixed offsets;
it finds all arguments of the general generator again.
-/

namespace FarmNetworking
namespace Socket
namespace EthernetUtils

open Foundation ByteString
open Structs PFringHandler

/-!
## The generators
-/

/-- A block that `new char[64]` has returned. -/
structure FreshBlock where
  address : Nat
  content : Vector UInt8 64

/-- The header fills the front of the block; the rest is not written. -/
def generateARPv4 (data : FreshBlock) (sourceHardwAddr targetHardwAddr : MacAddress)
    (sourceIPAddr targetIPAddr : UInt32) (operation : UInt16) : DataContainer :=
  let hdr : ARPHDR :=
    { eth :=
        { etherDhost := targetHardwAddr
          etherShost := sourceHardwAddr
          etherType := htons 0x0806 }
      arp :=
        { arHrd := htons 1
          arPro := htons 0x0800
          arHln := 6
          arPln := 4
          arOp := htons operation }
      sourceHardwAddr := sourceHardwAddr
      sourceIPAddr := sourceIPAddr
      targetHardwAddr := targetHardwAddr
      targetIPAddr := targetIPAddr }
  { data :=
      { address := data.address
        bytes := copyAt data.content.toList 0 hdr.bytes }
    length := 42
    ownerMayFreeData := true }

/-- The target hardware address is a block of zeros. -/
def generateGratuitousARPv4 (data : FreshBlock) (sourceHardwAddr : MacAddress)
    (sourceIPAddr : UInt32) : DataContainer :=
  let destMac : MacAddress := Vector.replicate 6 0
  generateARPv4 data sourceHardwAddr destMac sourceIPAddr sourceIPAddr 1

/-- The bytes that `SendFrameConcurrently` passes to the ring. -/
def onTheWire (data : DataContainer) : List UInt8 :=
  (padFrame data.data.bytes (UInt32.ofNat data.length)).1

/-!
## Reading a frame
-/

/-- Numbers are in network byte order, addresses are their bytes. -/
structure ARPPacket where
  destination : List UInt8
  source : List UInt8
  etherType : Nat
  hardwareType : Nat
  protocolType : Nat
  hardwareLength : Nat
  protocolLength : Nat
  operation : Nat
  senderHardwareAddress : List UInt8
  senderProtocolAddress : List UInt8
  targetHardwareAddress : List UInt8
  targetProtocolAddress : List UInt8
  trailer : List UInt8
  deriving DecidableEq

def parseARP (frame : List UInt8) : ARPPacket where
  destination := slice 0 6 frame
  source := slice 6 6 frame
  etherType := beNat (slice 12 2 frame)
  hardwareType := beNat (slice 14 2 frame)
  protocolType := beNat (slice 16 2 frame)
  hardwareLength := beNat (slice 18 1 frame)
  protocolLength := beNat (slice 19 1 frame)
  operation := beNat (slice 20 2 frame)
  senderHardwareAddress := slice 22 6 frame
  senderProtocolAddress := slice 28 4 frame
  targetHardwareAddress := slice 32 6 frame
  targetProtocolAddress := slice 38 4 frame
  trailer := frame.drop 42

def arpPacket (sourceHardwAddr targetHardwAddr : MacAddress)
    (sourceIPAddr targetIPAddr : UInt32) (operation : UInt16) : ARPPacket where
  destination := targetHardwAddr.toList
  source := sourceHardwAddr.toList
  etherType := 0x0806
  hardwareType := 1
  protocolType := 0x0800
  hardwareLength := 6
  protocolLength := 4
  operation := operation.toNat
  senderHardwareAddress := sourceHardwAddr.toList
  senderProtocolAddress := leBytes 4 sourceIPAddr.toNat
  targetHardwareAddress := targetHardwAddr.toList
  targetProtocolAddress := leBytes 4 targetIPAddr.toNat
  trailer := List.replicate 18 0

section RoundTrip

variable (data : FreshBlock) (sourceHardwAddr targetHardwAddr : MacAddress)
  (sourceIPAddr targetIPAddr : UInt32) (operation : UInt16)

def arpBytes : List UInt8 :=
  targetHardwAddr.toList ++ (sourceHardwAddr.toList ++ (beBytes 2 0x0806 ++
    (beBytes 2 1 ++ (beBytes 2 0x0800 ++ (beBytes 1 6 ++ (beBytes 1 4 ++
    (beBytes 2 operation.toNat ++ (sourceHardwAddr.toList ++
    (leBytes 4 sourceIPAddr.toNat ++ (targetHardwAddr.toList ++
    leBytes 4 targetIPAddr.toNat))))))))))

theorem generateARPv4_onTheWire :
    onTheWire (generateARPv4 data sourceHardwAddr targetHardwAddr sourceIPAddr
        targetIPAddr operation) =
      arpBytes sourceHardwAddr targetHardwAddr sourceIPAddr targetIPAddr
        operation ++ List.replicate 18 0 := by
  have hcopy : forall hdr : ARPHDR,
      (copyAt data.content.toList 0 hdr.bytes).take 42 = hdr.bytes := by
    intro hdr
    rw [copyAt_zero (by simp), List.take_left' (ARPHDR.bytes_length hdr)]
  show (copyAt data.content.toList 0 _).take 42 ++ List.replicate 18 0 = _
  rw [hcopy]
  simp only [ARPHDR.bytes, EtherHeader.bytes, Arphdr.bytes, arpBytes,
    leBytes_htons, List.append_assoc]
  rfl

theorem arpBytes_length :
    (arpBytes sourceHardwAddr targetHardwAddr sourceIPAddr targetIPAddr
      operation).length = 42 := by
  simp [arpBytes]

theorem parseARP_generateARPv4 :
    parseARP (onTheWire (generateARPv4 data sourceHardwAddr targetHardwAddr
        sourceIPAddr targetIPAddr operation)) =
      arpPacket sourceHardwAddr targetHardwAddr sourceIPAddr targetIPAddr
        operation := by
  rw [generateARPv4_onTheWire]
  have hoperation : operation.toNat % 65536 = operation.toNat :=
    Nat.mod_eq_of_lt operation.toNat_lt
  simp (disch := simp) only [parseARP, arpPacket, arpBytes, List.append_assoc,
    slice_append_right, slice_append_here, drop_append_right, beBytes_length,
    leBytes_length, Vector.length_toList, Nat.reduceSub, List.drop_zero,
    beNat_beBytes, hoperation, Nat.reducePow, Nat.reduceMod]

theorem generateARPv4_length :
    (onTheWire (generateARPv4 data sourceHardwAddr targetHardwAddr sourceIPAddr
      targetIPAddr operation)).length = 60 := by
  rw [generateARPv4_onTheWire, List.length_append, arpBytes_length,
    List.length_replicate]

end RoundTrip

/-!
## The gratuitous request

Its purpose is to reach all stations of the network.  The header has one target
hardware address for the Ethernet header and for the request; zeros are what a
request puts there, but they are no broadcast.
-/

def zeroMac : MacAddress := Vector.replicate 6 0

def broadcastMac : MacAddress := Vector.replicate 6 0xff

/-- The target hardware address inside a request has no meaning. -/
structure WellFormedGratuitous (m : MacAddress) (a : UInt32)
    (frame : List UInt8) : Prop where
  length : frame.length = 60
  packet : parseARP frame =
    { arpPacket m broadcastMac a a 1 with
      targetHardwareAddress := (parseARP frame).targetHardwareAddress }

theorem parseARP_gratuitous (data : FreshBlock) (m : MacAddress) (a : UInt32) :
    parseARP (onTheWire (generateGratuitousARPv4 data m a)) =
      arpPacket m zeroMac a a 1 :=
  parseARP_generateARPv4 data m zeroMac a a 1

theorem gratuitous_not_wellFormed (data : FreshBlock) (m : MacAddress)
    (a : UInt32) :
    ¬WellFormedGratuitous m a (onTheWire (generateGratuitousARPv4 data m a)) := by
  intro h
  have hdestination := congrArg ARPPacket.destination h.packet
  rw [parseARP_gratuitous] at hdestination
  revert hdestination
  show ¬List.replicate 6 (0 : UInt8) = List.replicate 6 0xff
  decide

/--
No gratuitous request is sent to the broadcast address.  Apart from this address
it has the contents it should have, and the general generator is read back for
all arguments.
-/
theorem gratuitousARP_never_broadcast (data : FreshBlock) (m : MacAddress)
    (a : UInt32) :
    ¬WellFormedGratuitous m a (onTheWire (generateGratuitousARPv4 data m a)) ∧
    ((onTheWire (generateGratuitousARPv4 data m a)).length = 60 ∧
      parseARP (onTheWire (generateGratuitousARPv4 data m a)) =
        { arpPacket m broadcastMac a a 1 with
          destination := zeroMac.toList
          targetHardwareAddress := zeroMac.toList }) ∧
    (forall (targetHardwAddr : MacAddress) (sourceIPAddr targetIPAddr : UInt32)
      (operation : UInt16),
      (onTheWire (generateARPv4 data m targetHardwAddr sourceIPAddr
        targetIPAddr operation)).length = 60 ∧
      parseARP (onTheWire (generateARPv4 data m targetHardwAddr sourceIPAddr
        targetIPAddr operation)) =
          arpPacket m targetHardwAddr sourceIPAddr targetIPAddr operation) := by
  refine ⟨gratuitous_not_wellFormed data m a, ⟨?_, ?_⟩, ?_⟩
  · exact generateARPv4_length data m zeroMac a a 1
  · rw [parseARP_gratuitous]
    rfl
  · intro targetHardwAddr sourceIPAddr targetIPAddr operation
    exact ⟨generateARPv4_length data m targetHardwAddr sourceIPAddr targetIPAddr
        operation,
      parseARP_generateARPv4 data m targetHardwAddr sourceIPAddr targetIPAddr
        operation⟩

theorem gratuitous_not_wellFormed_example :
    ¬WellFormedGratuitous #v[2, 0, 0, 0, 0, 1] 0x0100007f
      (onTheWire (generateGratuitousARPv4
        { address := 0, content := Vector.replicate 64 0 }
        #v[2, 0, 0, 0, 0, 1] 0x0100007f)) :=
  gratuitous_not_wellFormed _ _ _


end EthernetUtils
end Socket
end FarmNetworking
