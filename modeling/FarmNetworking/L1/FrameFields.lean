import FarmNetworking.L1.BatchFrames

/-!
# The header of a finished frame

The bytes of a frame header seen from outside: the value that a receiver reads
at the offset of a length field, and the bytes that the send path does not touch.
-/

namespace FarmNetworking
namespace L1

open Foundation ByteString
open Structs Socket EthernetUtils

def field (offset width : Nat) (packet : List UInt8) : Nat :=
  beNat (slice offset width packet)

theorem beNat_leBytes (x : UInt16) :
    beNat (leBytes 2 x.toNat) = (ntohs x).toNat := by
  rw [ntohs, htons_toNat, swapBytes, beNat, beBytes]

/-!
## Where the length fields are
-/

section Offsets

variable (h : MRPFrameHDR) (rest : List UInt8)

theorem field_totLen :
    field 16 2 (h.bytes ++ rest) = (ntohs h.udp.ip.totLen).toNat := by
  rw [← beNat_leBytes]
  simp (disch := simp) [field, MRPFrameHDR.bytes, UDPHDR.bytes, Iphdr.bytes,
    slice_append_right, slice_append_here, slice_cons]

theorem field_udpLen :
    field 38 2 (h.bytes ++ rest) = (ntohs h.udp.udp.len).toNat := by
  rw [← beNat_leBytes]
  simp (disch := simp) [field, MRPFrameHDR.bytes, UDPHDR.bytes, Udphdr.bytes,
    slice_append_right, slice_append_here]

theorem field_numberOfTriggers :
    field 42 2 (h.bytes ++ rest) =
      (ntohs h.mrpHDR.numberOfTriggers).toNat := by
  rw [← beNat_leBytes]
  simp (disch := simp) [field, MRPFrameHDR.bytes, MRPRawHDR.bytes,
    slice_append_right, slice_append_here]

theorem field_mrpLength :
    field 44 2 (h.bytes ++ rest) = (ntohs h.mrpHDR.mrpLength).toNat := by
  rw [← beNat_leBytes]
  simp (disch := simp) [field, MRPFrameHDR.bytes, MRPRawHDR.bytes,
    slice_append_right, slice_append_here]

end Offsets

/-!
## What the send path writes

Finishing a header replaces the four length fields and the two checksums and
keeps all other fields.
-/

/-- The payload length after its narrowing to 16 bits. -/
def payloadLength (n : UInt32) : UInt16 :=
  UInt16.ofNat (12 + n.toUInt16.toNat * 12)

theorem payloadLength_toNat {n : Nat} (h : 40 + 12 * n ≤ 65535) :
    (payloadLength (UInt32.ofNat n)).toNat = 12 + 12 * n := by
  have hn : n % 2 ^ 32 % 2 ^ 16 = n := by lia
  rw [payloadLength, UInt16.toNat_ofNat', UInt32.toNat_toUInt16,
    UInt32.toNat_ofNat', hn]
  lia

/-- The size that the send path reads back from a header it has completed. -/
theorem setNumberOfTriggers_getSize (hdr : MRPFrameHDR) (n : UInt32) :
    (hdr.setNumberOfTriggers n.toUInt16).mrpHDR.getSize = payloadLength n :=
  ntohs_htons _

def withLengths (hdr : MRPFrameHDR) (n : UInt32) (ipCheck udpCheck : UInt16) :
    MRPFrameHDR where
  udp :=
    { eth := hdr.udp.eth
      ip := { hdr.udp.ip with
        totLen := htons (UInt16.ofNat (20 + 8 + (payloadLength n).toNat))
        check := ipCheck }
      udp := { hdr.udp.udp with
        len := htons (UInt16.ofNat (8 + (payloadLength n).toNat))
        check := udpCheck } }
  mrpHDR := { hdr.mrpHDR with
    numberOfTriggers := htons n.toUInt16
    mrpLength := htons (payloadLength n) }

theorem finishHeader_eq (sums : ChecksumFunctions) (hdr : MRPFrameHDR)
    (payload : List UInt8) (n : UInt32) :
    exists ipCheck udpCheck,
      finishHeader sums hdr payload n = withLengths hdr n ipCheck udpCheck :=
  ⟨_, _, rfl⟩

theorem frameOf_fields {pointer : Type} (sums : ChecksumFunctions)
    (deref : pointer -> TriggerRawHDR) (triggers : List pointer)
    (template : MRPFrameHDR) (h : 40 + 12 * triggers.length ≤ 65535) :
    field 16 2 (frameOf sums deref triggers template) =
        40 + 12 * triggers.length ∧
      field 38 2 (frameOf sums deref triggers template) =
        20 + 12 * triggers.length ∧
      field 42 2 (frameOf sums deref triggers template) = triggers.length ∧
      field 44 2 (frameOf sums deref triggers template) =
        12 + 12 * triggers.length := by
  rcases finishHeader_eq sums template (blocks deref triggers)
    (UInt32.ofNat triggers.length) with ⟨ipCheck, udpCheck, hheader⟩
  have hpayload := payloadLength_toNat h
  rw [frameOf, field_totLen, field_udpLen, field_numberOfTriggers,
    field_mrpLength, hheader]
  simp only [withLengths, ntohs_htons, hpayload, UInt16.toNat_ofNat',
    UInt32.toNat_toUInt16, UInt32.toNat_ofNat']
  refine ⟨?_, ?_, ?_⟩
  · lia
  · lia
  · lia

theorem frameOf_isFragment {pointer : Type} (sums : ChecksumFunctions)
    (deref : pointer -> TriggerRawHDR) (triggers : List pointer)
    (template : MRPFrameHDR) :
    (UDPHDR.ofBytes (frameOf sums deref triggers template)).isFragment =
      template.udp.isFragment := by
  rcases finishHeader_eq sums template (blocks deref triggers)
    (UInt32.ofNat triggers.length) with ⟨ipCheck, udpCheck, hheader⟩
  rw [frameOf, hheader, MRPFrameHDR.bytes, List.append_assoc, UDPHDR.ofBytes_bytes]
  rfl

/-- The header bytes that no send path writes: all but 16, 17, 24, 25, 38 to 45. -/
def SameElsewhere (a b : List UInt8) : Prop :=
  slice 0 16 a = slice 0 16 b ∧ slice 18 6 a = slice 18 6 b ∧
    slice 26 12 a = slice 26 12 b ∧ slice 46 8 a = slice 46 8 b

theorem sameElsewhere_withLengths (hdr : MRPFrameHDR) (n : UInt32)
    (ipCheck udpCheck : UInt16) (rest : List UInt8) :
    SameElsewhere ((withLengths hdr n ipCheck udpCheck).bytes ++ rest)
      hdr.bytes := by
  refine ⟨?_, ?_, ?_, ?_⟩
  · simp [slice, MRPFrameHDR.bytes, UDPHDR.bytes, EtherHeader.bytes,
      Iphdr.bytes, withLengths, List.take_append]
  · simp [slice, MRPFrameHDR.bytes, UDPHDR.bytes, EtherHeader.bytes,
      Iphdr.bytes, withLengths, List.take_append, List.drop_append]
  · simp (disch := simp) [MRPFrameHDR.bytes, UDPHDR.bytes, Iphdr.bytes,
      Udphdr.bytes, withLengths, slice_append_right, slice_cons]
    simp [slice, List.take_append]
  · simp (disch := simp) [MRPFrameHDR.bytes, MRPRawHDR.bytes, withLengths,
      slice_append_right]
    simp [slice, List.take_append]

theorem getElem?_of_slice_eq {offset width : Nat} {a b : List UInt8}
    (h : slice offset width a = slice offset width b) {i : Nat}
    (hlow : offset ≤ i) (hhigh : i < offset + width) : a[i]? = b[i]? := by
  have hinside : i - offset < width := by lia
  have hsum : offset + (i - offset) = i := by lia
  have hget := congrArg (fun l => l[i - offset]?) h
  simpa [slice, List.getElem?_take_of_lt hinside, hsum] using hget

end L1
end FarmNetworking
