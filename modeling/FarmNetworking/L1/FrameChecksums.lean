import FarmNetworking.L1.Endpoints
import FarmNetworking.L1.FrameFields
import FarmNetworking.Socket.Checksums

/-!
# The checksums of a finished frame

The send path stores both checksums after it has set the lengths, so the general
facts about stored checksums apply to the bytes of every frame.
-/

namespace FarmNetworking
namespace L1

open Foundation ByteString
open Structs Socket EthernetUtils

theorem finishHeader_checksums (sums : ChecksumFunctions) (hdr : MRPFrameHDR)
    (payload : List UInt8) (n : UInt32) :
    finishHeader sums hdr payload n =
      { hdr.setNumberOfTriggers n.toUInt16 with
        udp := storeUDPChecksum sums
          { (hdr.setNumberOfTriggers n.toUInt16).udp with
            ip := storeIPChecksum sums (hdr.setNumberOfTriggers n.toUInt16).udp.ip }
          ((hdr.setNumberOfTriggers n.toUInt16).mrpHDR.bytes ++ payload)
          (hdr.setNumberOfTriggers n.toUInt16).mrpHDR.getSize.toUInt32 } := rfl

section Frame

variable {pointer : Type} {sums : ChecksumFunctions}
  (deref : pointer -> TriggerRawHDR) (triggers : List pointer)
  (template : MRPFrameHDR)

theorem frameOf_checkData (hsums : sums.Documented) :
    checkData ((frameOf sums deref triggers template).drop 14) 20 = true := by
  have hdrop : forall (u : UDPHDR) (m : MRPRawHDR) (rest : List UInt8),
      (MRPFrameHDR.bytes { udp := u, mrpHDR := m } ++ rest).drop 14 =
        u.ip.bytes ++ (u.udp.bytes ++ (m.bytes ++ rest)) := by
    intro u m rest
    simp (disch := simp) [MRPFrameHDR.bytes, UDPHDR.bytes]
  rw [frameOf, finishHeader_checksums, hdrop]
  exact storeIPChecksum_checkData hsums _ _

theorem frameOf_checkUDP (hsums : sums.Documented)
    (h : 40 + 12 * triggers.length ≤ 65535) :
    checkUDP sums (UDPHDR.ofBytes (frameOf sums deref triggers template))
      ((frameOf sums deref triggers template).drop 42)
      (UInt32.ofNat (12 + 12 * triggers.length)) = true := by
  generalize hset : template.setNumberOfTriggers
    (UInt32.ofNat triggers.length).toUInt16 = hdr
  have hpayload := payloadLength_toNat h
  have hsize : hdr.mrpHDR.getSize.toUInt32 =
      UInt32.ofNat (12 + 12 * triggers.length) := by
    apply UInt32.toNat_inj.mp
    rw [← hset, setNumberOfTriggers_getSize, UInt16.toNat_toUInt32, hpayload,
      UInt32.toNat_ofNat']
    lia
  have hlen : (ntohs hdr.udp.udp.len).toNat = 20 + 12 * triggers.length := by
    have hget : ntohs hdr.udp.udp.len = UInt16.ofNat
        (8 + (payloadLength (UInt32.ofNat triggers.length)).toNat) := by
      rw [← hset]
      exact ntohs_htons _
    rw [hget, hpayload, UInt16.toNat_ofNat']
    lia
  have hlength : (hdr.mrpHDR.bytes ++ blocks deref triggers).length =
      12 + 12 * triggers.length := by
    rw [List.length_append, MRPRawHDR.bytes_length, blocks_length]
  rw [frameOf, finishHeader_checksums, hset, MRPFrameHDR.udp_ofBytes,
    MRPFrameHDR.drop_bytes, hsize]
  have hcheck := storeUDPChecksum_checkUDP hsums
    { hdr.udp with ip := storeIPChecksum sums hdr.udp.ip }
    (hdr.mrpHDR.bytes ++ blocks deref triggers) [] []
    (show (UInt32.ofNat (12 + 12 * triggers.length)).toNat = _ by
      rw [hlength, UInt32.toNat_ofNat']
      lia)
    (by
      rw [hlength]
      change (ntohs hdr.udp.udp.len).toNat = _
      lia)
    (by lia)
  rw [List.append_nil] at hcheck
  exact hcheck

end Frame

/--
Storing the IP checksum, storing the UDP checksum, and sending a batch each
leave headers that the two checks accept.
-/
theorem generatedChecksums_verify {sums : ChecksumFunctions}
    (hsums : sums.Documented) :
    (forall (ip : Iphdr) (behind : List UInt8),
      checkData ((storeIPChecksum sums ip).bytes ++ behind) 20 = true) ∧
    (forall (hdr : UDPHDR) (payload behind behind' : List UInt8) (m : UInt32),
      m.toNat = payload.length ->
      (ntohs hdr.udp.len).toNat = 8 + payload.length ->
      28 + payload.length ≤ 65535 ->
        checkUDP sums (storeUDPChecksum sums hdr (payload ++ behind) m)
          (payload ++ behind') m = true) ∧
    (forall (pointer : Type) (host : Host) (t : Templates)
      (deref : pointer -> TriggerRawHDR) (triggers : List pointer)
      (frame : List UInt8),
      40 + 12 * batchSize t triggers ≤ 65535 ->
      frame ∈ (asyncSendMRP host sums t deref triggers).frames ->
        checkData (frame.drop 14) 20 = true ∧
          checkUDP sums (UDPHDR.ofBytes frame) (frame.drop 42)
            (UInt32.ofNat (12 + 12 * batchSize t triggers)) = true) := by
  refine ⟨?_, ?_, ?_⟩
  · intro ip behind
    exact storeIPChecksum_checkData hsums ip behind
  · intro hdr payload behind behind' m hm hlen hsize
    exact storeUDPChecksum_checkUDP hsums hdr payload behind behind' hm hlen hsize
  · intro pointer host t deref triggers frame h hframe
    rw [asyncSendMRP_frames (by lia)] at hframe
    rcases List.mem_map.mp hframe with ⟨template, _htemplate, rfl⟩
    rw [← batch_length] at h ⊢
    constructor
    · exact frameOf_checkData deref _ template hsums
    · exact frameOf_checkUDP deref _ template hsums h

theorem generatedChecksums_verify_loopback :
    checkData ((storeIPChecksum ChecksumFunctions.reference
      MRPFrameHDR.zero.udp.ip).bytes ++ [1]) 20 = true ∧
    checkUDP ChecksumFunctions.reference
      (storeUDPChecksum ChecksumFunctions.reference
        (MRPFrameHDR.zero.udp.setPayloadSize 3) ([1, 2, 3] ++ [4]) 3)
      ([1, 2, 3] ++ [5]) 3 = true ∧
    forall frame,
      frame ∈ (asyncSendMRP loopbackHost ChecksumFunctions.reference
        loopbackTemplates (fun p => generateTriggerHDR (requestedEvent p) false)
        [5]).frames ->
        checkData (frame.drop 14) 20 = true ∧
          checkUDP ChecksumFunctions.reference (UDPHDR.ofBytes frame)
            (frame.drop 42) (UInt32.ofNat (12 + 12 * 1)) = true := by
  rcases generatedChecksums_verify ChecksumFunctions.reference_documented with
    ⟨hip, hudp, hframes⟩
  have hsize : batchSize loopbackTemplates ([5] : List UInt32) = 1 := by decide
  refine ⟨hip _ _, hudp _ _ _ _ _ rfl (by decide) (by decide), ?_⟩
  intro frame hframe
  have h := hframes _ loopbackHost loopbackTemplates _ _ frame
    (by rw [hsize]; decide) hframe
  rw [hsize] at h
  exact h

end L1
end FarmNetworking
