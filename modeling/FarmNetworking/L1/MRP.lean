import FarmNetworking.Structs.Network

/-!
# Multi-request packets

The structures of `l1/MRP.h` in the variant that the build selects, with
`__USE_BIG_ENDIAN_FOR_MRP` defined.  A trigger block has 12 bytes, the MRP
header 12 and the whole frame header 54.

Offsets inside an `MRPFrameHDR`: `UDPHDR` 0, number of triggers 42, MRP length
44, address 46, reserved 50, end 54.
-/

namespace FarmNetworking
namespace L1

open Foundation ByteString
open Structs

structure TriggerRawHDR where
  timestamp : UInt32
  fineTime : UInt8
  requestZeroSuppressed : UInt8
  triggerTypeWord : UInt16
  reserved2 : UInt8
  eventNumber : BitVec 24
  deriving DecidableEq

def TriggerRawHDR.bytes (h : TriggerRawHDR) : List UInt8 :=
  leBytes 4 h.timestamp.toNat ++ ([h.fineTime, h.requestZeroSuppressed] ++
    (leBytes 2 h.triggerTypeWord.toNat ++ ([h.reserved2] ++
    leBytes 3 h.eventNumber.toNat)))

@[simp] theorem TriggerRawHDR.bytes_length (h : TriggerRawHDR) :
    h.bytes.length = 12 := by
  simp [TriggerRawHDR.bytes]

structure MRPRawHDR where
  numberOfTriggers : UInt16
  mrpLength : UInt16
  ipAddress : UInt32
  reserved : UInt32
  deriving DecidableEq

namespace MRPRawHDR

def bytes (h : MRPRawHDR) : List UInt8 :=
  leBytes 2 h.numberOfTriggers.toNat ++ (leBytes 2 h.mrpLength.toNat ++
    (leBytes 4 h.ipAddress.toNat ++ leBytes 4 h.reserved.toNat))

@[simp] theorem bytes_length (h : MRPRawHDR) : h.bytes.length = 12 := by
  simp [bytes]

def ofBytes (data : List UInt8) : MRPRawHDR where
  numberOfTriggers := leUInt16 data
  mrpLength := leUInt16 (data.drop 2)
  ipAddress := leUInt32 (data.drop 4)
  reserved := leUInt32 (data.drop 8)

theorem ofBytes_bytes (h : MRPRawHDR) (rest : List UInt8) :
    ofBytes (h.bytes ++ rest) = h := by
  simp (disch := simp) [ofBytes, bytes, drop_append_right, leUInt16_append,
    leUInt32_append]

def setNumberOfTriggers (h : MRPRawHDR) (triggerNum : UInt16) : MRPRawHDR :=
  { h with
    numberOfTriggers := htons triggerNum
    mrpLength := htons (UInt16.ofNat (12 + triggerNum.toNat * 12)) }

def getNumberOfTriggers (h : MRPRawHDR) : UInt16 :=
  ntohs h.numberOfTriggers

def getSize (h : MRPRawHDR) : UInt16 :=
  ntohs h.mrpLength

end MRPRawHDR

structure MRPFrameHDR where
  udp : UDPHDR
  mrpHDR : MRPRawHDR
  deriving DecidableEq

namespace MRPFrameHDR

def bytes (h : MRPFrameHDR) : List UInt8 :=
  h.udp.bytes ++ h.mrpHDR.bytes

@[simp] theorem bytes_length (h : MRPFrameHDR) : h.bytes.length = 54 := by
  simp [bytes]

def ofBytes (data : List UInt8) : MRPFrameHDR where
  udp := UDPHDR.ofBytes data
  mrpHDR := MRPRawHDR.ofBytes (data.drop 42)

theorem ofBytes_bytes (h : MRPFrameHDR) (rest : List UInt8) :
    ofBytes (h.bytes ++ rest) = h := by
  simp (disch := simp) only [ofBytes, bytes, List.append_assoc,
    drop_append_right, UDPHDR.bytes_length, Nat.reduceSub, List.drop_zero,
    UDPHDR.ofBytes_bytes, MRPRawHDR.ofBytes_bytes]

theorem udp_ofBytes (h : MRPFrameHDR) (rest : List UInt8) :
    UDPHDR.ofBytes (h.bytes ++ rest) = h.udp := by
  rw [bytes, List.append_assoc, UDPHDR.ofBytes_bytes]

theorem drop_bytes (h : MRPFrameHDR) (rest : List UInt8) :
    (h.bytes ++ rest).drop 42 = h.mrpHDR.bytes ++ rest := by
  simp (disch := simp) [bytes]

/-- The length is narrowed to 16 bits before `setPayloadSize` adds to it. -/
def setNumberOfTriggers (h : MRPFrameHDR) (triggerNum : UInt16) : MRPFrameHDR :=
  let length := UInt16.ofNat (12 + triggerNum.toNat * 12)
  { udp := h.udp.setPayloadSize length.toUInt32
    mrpHDR := h.mrpHDR.setNumberOfTriggers triggerNum }

/-- The value-initialised header `new MRP_FRAME_HDR()`. -/
def zero : MRPFrameHDR where
  udp :=
    { eth :=
        { etherDhost := Vector.replicate 6 0
          etherShost := Vector.replicate 6 0
          etherType := 0 }
      ip :=
        { ihl := 0, version := 0, tos := 0, totLen := 0, id := 0,
          fragOff := 0, ttl := 0, protocol := 0, check := 0, saddr := 0,
          daddr := 0 }
      udp := { source := 0, dest := 0, len := 0, check := 0 } }
  mrpHDR :=
    { numberOfTriggers := 0, mrpLength := 0, ipAddress := 0, reserved := 0 }

end MRPFrameHDR

end L1
end FarmNetworking
