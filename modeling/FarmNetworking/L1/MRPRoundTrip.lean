import FarmNetworking.L1.Endpoints
import FarmNetworking.L1.Receiver

/-!
# The round trip of a multi-request packet

A configuration names endpoints, a batch consists of requests, and a receiver
reads numbers from bytes.  The main result of this module connects the three:
each endpoint gets one frame, and the frame says what was requested.
-/

namespace FarmNetworking
namespace L1

open Foundation ByteString
open Structs Socket EthernetUtils

def computedBytes : List Nat := [16, 17, 24, 25, 38, 39, 40, 41, 42, 43, 44, 45]

structure Carries (host : Host) (cfg : Config) (content : List ReceivedTrigger)
    (e : Endpoint) (frame : List UInt8) : Prop where
  length : frame.length = 54 + 12 * content.length
  received : receive frame =
    { totLen := 40 + 12 * content.length
      udpLen := 20 + 12 * content.length
      numberOfTriggers := content.length
      mrpLength := 12 + 12 * content.length
      triggers := content }
  template : forall i, i < 54 -> i ∉ computedBytes ->
    frame[i]? = (endpointTemplate host cfg e).bytes[i]?
  etherDhost : slice 0 6 frame = e.mac.toList
  daddr : slice 30 4 frame = leBytes 4 e.address.toNat
  source : field 34 2 frame = cfg.sourcePort.toNat
  dest : field 36 2 frame = cfg.destinationPort.toNat

/-!
## From the template to the frame
-/

theorem getElem?_of_sameElsewhere {a b : List UInt8} (h : SameElsewhere a b)
    {i : Nat} (hi : i < 54) (hcomputed : i ∉ computedBytes) : a[i]? = b[i]? := by
  rcases h with ⟨hfront, hid, haddr, hrest⟩
  have hregion : i < 16 ∨ (18 ≤ i ∧ i < 24) ∨ (26 ≤ i ∧ i < 38) ∨ 46 ≤ i := by
    simp only [computedBytes, List.mem_cons, List.not_mem_nil, or_false,
      not_or] at hcomputed
    lia
  rcases hregion with hlow | ⟨hlow, hhigh⟩ | ⟨hlow, hhigh⟩ | hlow
  · exact getElem?_of_slice_eq hfront (Nat.zero_le i) (by lia)
  · exact getElem?_of_slice_eq hid hlow (by lia)
  · exact getElem?_of_slice_eq haddr hlow (by lia)
  · exact getElem?_of_slice_eq hrest hlow (by lia)

theorem slice_slice (block : List UInt8) (outer : Nat)
    {width offset inner : Nat} (h : offset + inner ≤ width) :
    slice offset inner (slice outer width block) =
      slice (outer + offset) inner block := by
  simp only [slice, List.drop_take, List.drop_drop, List.take_take]
  congr 1
  lia

theorem slice_of_slice_eq {a b : List UInt8} {outer width : Nat}
    (h : slice outer width a = slice outer width b) {offset inner : Nat}
    (hlow : outer ≤ offset) (hhigh : offset + inner ≤ outer + width) :
    slice offset inner a = slice offset inner b := by
  have hfit : offset - outer + inner ≤ width := by lia
  have hsum : outer + (offset - outer) = offset := by lia
  have ha := slice_slice a outer hfit
  have hb := slice_slice b outer hfit
  rw [hsum] at ha hb
  rw [← ha, ← hb, h]

section Template

variable (host : Host) (cfg : Config) (e : Endpoint)

theorem endpointTemplate_etherDhost :
    slice 0 6 (endpointTemplate host cfg e).bytes = e.mac.toList := by
  simp only [endpointTemplate, MRPFrameHDR.bytes, UDPHDR.bytes,
    EtherHeader.bytes, List.append_assoc]
  exact slice_append_here (by simp)

theorem endpointTemplate_daddr :
    slice 30 4 (endpointTemplate host cfg e).bytes =
      leBytes 4 e.address.toNat := by
  simp (disch := simp) [endpointTemplate, MRPFrameHDR.bytes, UDPHDR.bytes,
    Iphdr.bytes, slice_append_right, slice_append_here, slice_cons]

theorem endpointTemplate_source (hport : cfg.sourcePort.toNat < 65536) :
    field 34 2 (endpointTemplate host cfg e).bytes = cfg.sourcePort.toNat := by
  have hslice : slice 34 2 (endpointTemplate host cfg e).bytes =
      leBytes 2 (htons cfg.sourcePort.toUInt16).toNat := by
    simp (disch := simp) [endpointTemplate, MRPFrameHDR.bytes, UDPHDR.bytes,
      Udphdr.bytes, slice_append_right, slice_append_here]
  rw [field, hslice, beNat_leBytes_htons, UInt32.toNat_toUInt16]
  exact Nat.mod_eq_of_lt hport

theorem endpointTemplate_dest (hport : cfg.destinationPort.toNat < 65536) :
    field 36 2 (endpointTemplate host cfg e).bytes =
      cfg.destinationPort.toNat := by
  have hslice : slice 36 2 (endpointTemplate host cfg e).bytes =
      leBytes 2 (htons cfg.destinationPort.toUInt16).toNat := by
    simp (disch := simp) [endpointTemplate, MRPFrameHDR.bytes, UDPHDR.bytes,
      Udphdr.bytes, slice_append_right, slice_append_here]
  rw [field, hslice, beNat_leBytes_htons, UInt32.toNat_toUInt16]
  exact Nat.mod_eq_of_lt hport

end Template

theorem frameOf_sameElsewhere {pointer : Type} (sums : ChecksumFunctions)
    (deref : pointer -> TriggerRawHDR) (triggers : List pointer)
    (template : MRPFrameHDR) :
    SameElsewhere (frameOf sums deref triggers template) template.bytes := by
  rcases finishHeader_eq sums template (blocks deref triggers)
    (UInt32.ofNat triggers.length) with ⟨ipCheck, udpCheck, hheader⟩
  rw [frameOf, hheader]
  exact sameElsewhere_withLengths template _ ipCheck udpCheck _

theorem frameOf_carries {host : Host} {cfg : Config}
    (hcfg : cfg.WellFormed host) (sums : ChecksumFunctions)
    {pointer : Type} {deref : pointer -> TriggerRawHDR}
    {value : pointer -> ReceivedTrigger}
    (hvalue : forall p rest,
      receiveTrigger ((deref p).bytes ++ rest) = value p)
    (triggers : List pointer) (h : 40 + 12 * triggers.length ≤ 65535)
    (e : Endpoint) :
    Carries host cfg (triggers.map value) e
      (frameOf sums deref triggers (endpointTemplate host cfg e)) := by
  have hsame := frameOf_sameElsewhere sums deref triggers
    (endpointTemplate host cfg e)
  constructor
  · rw [frameOf_length, List.length_map]
  · rw [receive_frameOf sums hvalue triggers _ h, List.length_map]
  · intro i hi hcomputed
    exact getElem?_of_sameElsewhere hsame hi hcomputed
  · rw [slice_of_slice_eq hsame.left (by lia) (by lia)]
    exact endpointTemplate_etherDhost host cfg e
  · rw [slice_of_slice_eq hsame.right.right.left (by lia) (by lia)]
    exact endpointTemplate_daddr host cfg e
  · rw [field, slice_of_slice_eq hsame.right.right.left (by lia) (by lia)]
    exact endpointTemplate_source host cfg e hcfg.sourcePort
  · rw [field, slice_of_slice_eq hsame.right.right.left (by lia) (by lia)]
    exact endpointTemplate_dest host cfg e hcfg.destinationPort

/-!
## From the configuration to the frames
-/

/--
The batch is taken from the back of the vector, the last request first.  There
is one frame for each unicast endpoint, then one for each multicast endpoint.
-/
theorem asyncSendMRP_roundTrip {host : Host} {cfg : Config}
    (hcfg : cfg.WellFormed host) (sums : ChecksumFunctions) {pointer : Type}
    (event : pointer -> Event) (zSuppressed : pointer -> Bool)
    (triggers : List pointer) {k : Nat}
    (hk : k = min triggers.length cfg.maxTriggersPerMRP.toNat)
    (hlimit : 54 + 12 * k ≤ 1500) :
    exists t : Templates, exists sent : SentMRP pointer,
      Initialize host cfg Templates.initial = .ok t ∧
        sent = asyncSendMRP host sums t
          (fun p => generateTriggerHDR (event p) (zSuppressed p)) triggers ∧
        sent.triggers = triggers.take (triggers.length - k) ∧
        List.Forall₂
          (Carries host cfg
            ((triggers.reverse.take k).map fun p =>
              requested (event p) (zSuppressed p)))
          (cfg.unicastEndpoints host ++ cfg.multicastEndpoints host)
          sent.frames := by
  rcases initialize_wellFormed hcfg with
    ⟨t, hinit, hmax, hunicast, hmulticast⟩
  have hsize : batchSize t triggers = k := by
    rw [batchSize, hmax, hk]
  have hbatch : batch t triggers = triggers.reverse.take k := by
    rw [batch, hmax, hk, List.take_eq_take_min, List.length_reverse,
      Nat.min_comm]
  have hlength : (triggers.reverse.take k).length = k := by
    rw [List.length_take, List.length_reverse]
    lia
  refine ⟨t, _, hinit, rfl, ?_, ?_⟩
  · have hrest : triggers.length - cfg.maxTriggersPerMRP.toNat =
        triggers.length - k := by
      lia
    rw [asyncSendMRP_eq, hmax, ← hrest]
  · rw [asyncSendMRP_frames (by lia), hbatch, hunicast, hmulticast,
      ← List.map_append, List.map_map, List.forall₂_map_right_iff,
      List.forall₂_same]
    intro e _
    exact frameOf_carries hcfg sums
      (fun p rest => receiveTrigger_generateTriggerHDR _ _ rest) _ (by lia) e

theorem asyncSendMRP_roundTrip_two :
    exists t : Templates, exists sent : SentMRP UInt32,
      Initialize loopbackHost loopbackConfig Templates.initial = .ok t ∧
        sent = asyncSendMRP loopbackHost ChecksumFunctions.reference t
          (fun p => generateTriggerHDR (requestedEvent p) false) [5, 6] ∧
        sent.triggers = [] ∧
        List.Forall₂
          (Carries loopbackHost loopbackConfig
            [requested (requestedEvent 6) false,
              requested (requestedEvent 5) false])
          (loopbackConfig.unicastEndpoints loopbackHost ++
            loopbackConfig.multicastEndpoints loopbackHost)
          sent.frames := by
  have hk : 2 = min ([5, 6] : List UInt32).length
      loopbackConfig.maxTriggersPerMRP.toNat := by
    decide
  exact asyncSendMRP_roundTrip loopbackConfig_wellFormed
    ChecksumFunctions.reference requestedEvent (fun _ => false) [5, 6] hk
    (by decide)

end L1
end FarmNetworking
