import FarmNetworking.L1.Endpoints
import FarmNetworking.L1.FrameFields
import FarmNetworking.Socket.Corruption

/-!
# Checksums that are zero

In UDP over IPv4 a checksum field of zero means that the sender computed none,
and a sender transmits a computed zero as 0xFFFF.  `generateUDPChecksum` does not
make this exchange.  The headers and payloads on which it returns zero are
determined here, for any packet and for the frames of one batch.
-/

namespace FarmNetworking
namespace L1

open Foundation ByteString OnesComplement
open Structs Socket EthernetUtils

/-!
## One packet
-/

/--
The exact sum of the words that the checksum of a packet covers, while its field
is still zero.  The UDP length counts twice.
-/
def clearedSum (hdr : UDPHDR) (payload : List UInt8) : Nat :=
  17 + (ntohs hdr.udp.len).toNat +
    (beWords (covered { hdr with udp := { hdr.udp with check := 0 } }
      payload)).sum

theorem wrapsum_eq_zero_iff {f : ChecksumFunctions} (hf : f.Documented)
    {sum : UInt32} (hsum : sum.toNat ≤ 131070) :
    f.wrapsum sum = 0 <-> sum.toNat = 65535 := by
  have hcomplement : (UInt16.ofNat (65535 - sum.toNat % 65536)).toNat =
      65535 - sum.toNat % 65536 := by
    rw [UInt16.toNat_ofNat']
    exact Nat.mod_eq_of_lt (by lia)
  rw [hf.wrapsum_eq]
  constructor
  · intro h
    have hzero : UInt16.ofNat (65535 - sum.toNat % 65536) = 0 := by
      rw [← ntohs_htons (UInt16.ofNat _), h]
      rfl
    rw [hzero] at hcomplement
    change 0 = _ at hcomplement
    lia
  · intro h
    rw [h]
    rfl

theorem generateUDPChecksum_ne_zero_iff {f : ChecksumFunctions}
    (hf : f.Documented) (hdr : UDPHDR) (payload behind : List UInt8)
    {length : UInt32} (hlength : length.toNat = payload.length) :
    (generateUDPChecksum f hdr (payload ++ behind) length).2 ≠ 0 <->
      ¬65535 ∣ clearedSum hdr payload := by
  have hlen : (ntohs hdr.udp.len).toNat < 65536 := (ntohs hdr.udp.len).toNat_lt
  generalize hcleared : { hdr with udp := { hdr.udp with check := 0 } } = cleared
  have hsame : cleared.udp.len = hdr.udp.len := by rw [← hcleared]
  have hsum := udpSum_toNat hf cleared payload behind hlength
  have hle : (udpSum f cleared (payload ++ behind) length).toNat ≤ 131070 := by
    rw [hsum, hsame]
    exact endAroundSum_le (by decide) (by lia) (summedWords_le cleared payload)
  have haccept := checkUDP_iff hf cleared payload behind hlength
  rw [covered_len, hsame] at haccept
  have hcheck : (generateUDPChecksum f hdr (payload ++ behind) length).2 =
      f.wrapsum (udpSum f cleared (payload ++ behind) length) := by
    rw [← hcleared]
    rfl
  rw [hcheck, Ne, wrapsum_eq_zero_iff hf hle, ← checkUDP_eq_true_iff, haccept,
    clearedSum, hcleared]

/-!
## The frames of a batch

The header of a template is completed with the lengths of the batch before it is
summed.  The sum reads as many bytes behind the UDP header as the length field of
the request says, which is less than the batch has if this field has wrapped.
-/

section Batch

variable {pointer : Type} (host : Host) (t : Templates)
  (deref : pointer -> TriggerRawHDR) (triggers : List pointer)

def sentHeader (template : MRPFrameHDR) : MRPFrameHDR :=
  template.setNumberOfTriggers (UInt32.ofNat (batchSize t triggers)).toUInt16

/-- What lies behind the headers: the blocks, if the buffer has their size. -/
def sentBlocks : List UInt8 :=
  payload host (filled host t deref triggers).buff
    (54 + 12 * batchSize t triggers)

def summedRequest (template : MRPFrameHDR) : List UInt8 :=
  ((sentHeader t triggers template).mrpHDR.bytes ++
    sentBlocks host t deref triggers).take
      (sentHeader t triggers template).mrpHDR.getSize.toNat

theorem sentBlocks_length :
    (sentBlocks host t deref triggers).length = 12 * batchSize t triggers := by
  simp [sentBlocks, payload, freshBlock]

theorem summedRequest_length (template : MRPFrameHDR) :
    (summedRequest host t deref triggers template).length =
      (sentHeader t triggers template).mrpHDR.getSize.toNat := by
  have hget : (sentHeader t triggers template).mrpHDR.getSize =
      payloadLength (UInt32.ofNat (batchSize t triggers)) :=
    setNumberOfTriggers_getSize template _
  have hle : (payloadLength (UInt32.ofNat (batchSize t triggers))).toNat ≤
      12 + 12 * batchSize t triggers := by
    rw [payloadLength, UInt16.toNat_ofNat', UInt32.toNat_toUInt16,
      UInt32.toNat_ofNat']
    lia
  rw [summedRequest, List.length_take_of_le]
  rw [List.length_append, MRPRawHDR.bytes_length, sentBlocks_length, hget]
  exact hle

theorem buildFrame_check (sums : ChecksumFunctions) (template : MRPFrameHDR) :
    (UDPHDR.ofBytes (buildFrame host sums (filled host t deref triggers).buff
        (54 + 12 * batchSize t triggers)
        (UInt32.ofNat (batchSize t triggers)) template)).udp.check =
      (generateUDPChecksum sums
        { (sentHeader t triggers template).udp with
          ip := storeIPChecksum sums (sentHeader t triggers template).udp.ip }
        ((sentHeader t triggers template).mrpHDR.bytes ++
          sentBlocks host t deref triggers)
        (sentHeader t triggers template).mrpHDR.getSize.toUInt32).2 := by
  rw [buildFrame_eq _ _ _ (by lia), MRPFrameHDR.udp_ofBytes]
  rfl

theorem buildFrame_check_ne_zero_iff {sums : ChecksumFunctions}
    (hsums : sums.Documented) (template : MRPFrameHDR) :
    (UDPHDR.ofBytes (buildFrame host sums (filled host t deref triggers).buff
        (54 + 12 * batchSize t triggers)
        (UInt32.ofNat (batchSize t triggers)) template)).udp.check ≠ 0 <->
      ¬65535 ∣ clearedSum (sentHeader t triggers template).udp
        (summedRequest host t deref triggers template) := by
  have hlength : (sentHeader t triggers template).mrpHDR.getSize.toUInt32.toNat =
      (summedRequest host t deref triggers template).length := by
    rw [summedRequest_length]
    exact UInt16.toNat_toUInt32 _
  have hmemory : (sentHeader t triggers template).mrpHDR.bytes ++
      sentBlocks host t deref triggers =
        summedRequest host t deref triggers template ++
          ((sentHeader t triggers template).mrpHDR.bytes ++
            sentBlocks host t deref triggers).drop
              (sentHeader t triggers template).mrpHDR.getSize.toNat :=
    (List.take_append_drop _ _).symm
  rw [buildFrame_check, hmemory]
  -- the IP checksum is not covered
  exact generateUDPChecksum_ne_zero_iff hsums
    { (sentHeader t triggers template).udp with
      ip := storeIPChecksum sums (sentHeader t triggers template).udp.ip }
    _ _ hlength

end Batch

/--
The generator returns zero exactly when the sum of the covered words is divisible
by 65535, and a batch has a frame without a checksum exactly when this happens
for one of the templates.
-/
theorem udpChecksum_ne_zero_iff {sums : ChecksumFunctions}
    (hsums : sums.Documented) :
    (forall (hdr : UDPHDR) (payload behind : List UInt8) (length : UInt32),
      length.toNat = payload.length ->
        ((generateUDPChecksum sums hdr (payload ++ behind) length).2 ≠ 0 <->
          ¬65535 ∣ clearedSum hdr payload)) ∧
    (forall (pointer : Type) (host : Host) (t : Templates)
      (deref : pointer -> TriggerRawHDR) (triggers : List pointer),
      (forall frame,
        frame ∈ (asyncSendMRP host sums t deref triggers).frames ->
          (UDPHDR.ofBytes frame).udp.check ≠ 0) <->
      forall template,
        template ∈ t.l1UnicastRequestHdrs ++ t.l1MulticastRequestHdrs ->
          ¬65535 ∣ clearedSum (sentHeader t triggers template).udp
            (summedRequest host t deref triggers template)) := by
  constructor
  · intro hdr payload behind length hlength
    exact generateUDPChecksum_ne_zero_iff hsums hdr payload behind hlength
  · intro pointer host t deref triggers
    rw [asyncSendMRP_eq, List.forall_mem_map]
    constructor
    · intro h template htemplate
      exact (buildFrame_check_ne_zero_iff host t deref triggers hsums
        template).mp (h template htemplate)
    · intro h template htemplate
      exact (buildFrame_check_ne_zero_iff host t deref triggers hsums
        template).mpr (h template htemplate)

theorem udpChecksum_ne_zero_bare :
    (generateUDPChecksum ChecksumFunctions.reference (bareHDR 10 0)
      ([0xFF, 0xDB] ++ []) 2).2 ≠ 0 := by
  apply ((udpChecksum_ne_zero_iff ChecksumFunctions.reference_documented).left
    (bareHDR 10 0) [0xFF, 0xDB] [] 2 rfl).mpr
  decide

set_option maxRecDepth 4000 in
/-- The multicast frame of a batch of one trigger carries no checksum. -/
theorem batch_without_checksum :
    ¬forall frame,
      frame ∈ (asyncSendMRP loopbackHost ChecksumFunctions.reference
        loopbackTemplates (fun p => generateTriggerHDR (requestedEvent p) false)
        [830]).frames -> (UDPHDR.ofBytes frame).udp.check ≠ 0 := by
  decide

end L1
end FarmNetworking
