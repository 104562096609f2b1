import FarmNetworking.L1.Endpoints
import FarmNetworking.L1.FrameFields
import FarmNetworking.L1.Sender

/-!
# The lengths of a multi-request packet

The number of triggers of a batch is bounded only by a configured 32-bit value,
while the length fields of its frames have 16 bits.  This module says for which
batches the computed lengths are the exact ones.
-/

namespace FarmNetworking
namespace L1

open Foundation ByteString
open Structs Socket EthernetUtils

structure ExactLengths {pointer : Type} (k : Nat) (sent : SentMRP pointer) :
    Prop where
  sizeOfMRP : sent.sizeOfMRP.toNat = 54 + 12 * k
  inside : sent.overrun = false
  numberOfTriggers : forall frame, frame ∈ sent.frames -> field 42 2 frame = k
  mrpLength : forall frame, frame ∈ sent.frames ->
    field 44 2 frame = 12 + 12 * k
  udpLen : forall frame, frame ∈ sent.frames -> field 38 2 frame = 20 + 12 * k
  totLen : forall frame, frame ∈ sent.frames -> field 16 2 frame = 40 + 12 * k
  covered : forall frame, frame ∈ sent.frames ->
    (MRPFrameHDR.ofBytes frame).mrpHDR.getSize.toNat = (frame.drop 42).length

theorem field_two_lt (offset : Nat) (packet : List UInt8) :
    field offset 2 packet < 65536 := by
  have hlength : (slice offset 2 packet).reverse.length ≤ 2 := by
    rw [List.length_reverse, slice, List.length_take]
    exact Nat.min_le_left _ _
  have hlt := leNat_lt (slice offset 2 packet).reverse
  have hpow : 256 ^ (slice offset 2 packet).reverse.length ≤ 256 ^ 2 :=
    Nat.pow_le_pow_right (by decide) hlength
  exact Nat.lt_of_lt_of_le hlt hpow

section Frame

variable {pointer : Type} {sums : ChecksumFunctions}
  (deref : pointer -> TriggerRawHDR) (triggers : List pointer)
  (template : MRPFrameHDR)

theorem field_totLen_frameOf :
    field 16 2 (frameOf sums deref triggers template) =
      (UInt16.ofNat (20 + 8 +
        (payloadLength (UInt32.ofNat triggers.length)).toNat)).toNat := by
  rcases finishHeader_eq sums template (blocks deref triggers)
    (UInt32.ofNat triggers.length) with ⟨ipCheck, udpCheck, hheader⟩
  rw [frameOf, field_totLen, hheader]
  simp only [withLengths, ntohs_htons]

theorem frameOf_getSize (h : 40 + 12 * triggers.length ≤ 65535) :
    (MRPFrameHDR.ofBytes
      (frameOf sums deref triggers template)).mrpHDR.getSize.toNat =
      ((frameOf sums deref triggers template).drop 42).length := by
  rcases finishHeader_eq sums template (blocks deref triggers)
    (UInt32.ofNat triggers.length) with ⟨ipCheck, udpCheck, hheader⟩
  have hsize : (MRPFrameHDR.ofBytes
      (frameOf sums deref triggers template)).mrpHDR.getSize =
      payloadLength (UInt32.ofNat triggers.length) := by
    rw [frameOf, MRPFrameHDR.ofBytes_bytes, hheader]
    exact ntohs_htons _
  rw [hsize, payloadLength_toNat h, List.length_drop, frameOf_length]
  lia

end Frame

section Batch

variable {pointer : Type} (host : Host) (sums : ChecksumFunctions)
  (t : Templates) (deref : pointer -> TriggerRawHDR) (triggers : List pointer)

theorem asyncSendMRP_sizes
    (hsize : 54 + 12 * batchSize t triggers < 4294967296) :
    (asyncSendMRP host sums t deref triggers).sizeOfMRP.toNat =
        54 + 12 * batchSize t triggers ∧
      (asyncSendMRP host sums t deref triggers).overrun = false := by
  rw [asyncSendMRP_eq]
  constructor
  · exact UInt32.toNat_ofNat'.trans (Nat.mod_eq_of_lt hsize)
  · exact decide_eq_false (by lia)

theorem exactLengths_of_fits (h : 40 + 12 * batchSize t triggers ≤ 65535) :
    ExactLengths (batchSize t triggers)
      (asyncSendMRP host sums t deref triggers) := by
  rcases asyncSendMRP_sizes host sums t deref triggers (by lia) with
    ⟨hsize, hinside⟩
  have hframe : forall frame,
      frame ∈ (asyncSendMRP host sums t deref triggers).frames ->
      exists template,
        frameOf sums deref (batch t triggers) template = frame := by
    intro frame hmem
    rw [asyncSendMRP_frames (by lia)] at hmem
    rcases List.mem_map.mp hmem with ⟨template, _htemplate, heq⟩
    exact ⟨template, heq⟩
  rw [← batch_length] at h hsize ⊢
  refine ⟨hsize, hinside, ?_, ?_, ?_, ?_, ?_⟩ <;> intro frame hmem <;>
    rcases hframe frame hmem with ⟨template, rfl⟩
  · exact (frameOf_fields sums deref _ template h).right.right.left
  · exact (frameOf_fields sums deref _ template h).right.right.right
  · exact (frameOf_fields sums deref _ template h).right.left
  · exact (frameOf_fields sums deref _ template h).left
  · exact frameOf_getSize deref _ template h

theorem exactLengths_of_no_templates
    (hnone : t.l1UnicastRequestHdrs ++ t.l1MulticastRequestHdrs = [])
    (hsize : 54 + 12 * batchSize t triggers < 4294967296) :
    ExactLengths (batchSize t triggers)
      (asyncSendMRP host sums t deref triggers) := by
  rcases asyncSendMRP_sizes host sums t deref triggers hsize with
    ⟨hexact, hinside⟩
  have hframes : (asyncSendMRP host sums t deref triggers).frames = [] := by
    rw [asyncSendMRP_frames hsize, hnone, List.map_nil]
  have hnever : forall {P : List UInt8 -> Prop} (frame : List UInt8),
      frame ∈ (asyncSendMRP host sums t deref triggers).frames -> P frame := by
    intro P frame hmem
    rw [hframes] at hmem
    cases hmem
  exact ⟨hexact, hinside, hnever, hnever, hnever, hnever, hnever⟩

theorem fits_of_exactLengths
    (h : ExactLengths (batchSize t triggers)
      (asyncSendMRP host sums t deref triggers)) :
    40 + 12 * batchSize t triggers ≤ 65535 ∨
      (t.l1UnicastRequestHdrs ++ t.l1MulticastRequestHdrs = [] ∧
        54 + 12 * batchSize t triggers < 4294967296) := by
  have hsize : 54 + 12 * batchSize t triggers < 4294967296 := by
    rw [← h.sizeOfMRP]
    exact UInt32.toNat_lt _
  cases htemplates : t.l1UnicastRequestHdrs ++ t.l1MulticastRequestHdrs with
  | nil => exact Or.inr ⟨rfl, hsize⟩
  | cons template rest =>
      have hmem : frameOf sums deref (batch t triggers) template ∈
          (asyncSendMRP host sums t deref triggers).frames := by
        rw [asyncSendMRP_frames hsize, htemplates]
        exact List.mem_map_of_mem (List.mem_cons_self ..)
      have hlt := field_two_lt 16 (frameOf sums deref (batch t triggers) template)
      rw [h.totLen _ hmem] at hlt
      exact Or.inl (by lia)

end Batch

/--
For the batches that the sender assembles, which are never larger than the
configured maximum, the lengths are exact just as long as the IP length fits.
-/
theorem exactLengths_iff {pointer : Type} (host : Host)
    (sums : ChecksumFunctions) (t : Templates)
    (deref : pointer -> TriggerRawHDR) (triggers : List pointer)
    (hmax : triggers.length ≤ t.maxTriggersPerL1MRP.toNat) :
    ExactLengths triggers.length (asyncSendMRP host sums t deref triggers) <->
      40 + 12 * triggers.length ≤ 65535 ∨
        (t.l1UnicastRequestHdrs ++ t.l1MulticastRequestHdrs = [] ∧
          54 + 12 * triggers.length < 4294967296) := by
  have hsize : batchSize t triggers = triggers.length := by
    rw [batchSize]
    exact Nat.min_eq_left hmax
  rw [← hsize]
  constructor
  · exact fits_of_exactLengths host sums t deref triggers
  · rintro (hfits | ⟨hnone, hlt⟩)
    · exact exactLengths_of_fits host sums t deref triggers hfits
    · exact exactLengths_of_no_templates host sums t deref triggers hnone hlt

theorem exactLengths_iff_two :
    ExactLengths ([5, 6] : List UInt32).length
        (asyncSendMRP loopbackHost ChecksumFunctions.reference loopbackTemplates
          (fun p => generateTriggerHDR (requestedEvent p) false) [5, 6]) <->
      40 + 12 * ([5, 6] : List UInt32).length ≤ 65535 ∨
        (loopbackTemplates.l1UnicastRequestHdrs ++
            loopbackTemplates.l1MulticastRequestHdrs = [] ∧
          54 + 12 * ([5, 6] : List UInt32).length < 4294967296) :=
  exactLengths_iff _ _ _ _ _ (by decide)

/-!
The smallest batch with a wrong length has 5458 triggers: its IP length, 65536,
is stored as zero.  The sender assembles it when the configured maximum allows.
-/

def jumboConfig : Config :=
  { loopbackConfig with maxTriggersPerMRP := 5458 }

theorem totLen_wraps {pointer : Type} (host : Host) (sums : ChecksumFunctions)
    (t : Templates) (deref : pointer -> TriggerRawHDR) (triggers : List pointer)
    (hsize : batchSize t triggers = 5458)
    (hsome : t.l1UnicastRequestHdrs ++ t.l1MulticastRequestHdrs ≠ []) :
    exists frame, frame ∈ (asyncSendMRP host sums t deref triggers).frames ∧
      frame.length = 65550 ∧ field 16 2 frame = 0 := by
  rcases List.exists_mem_of_ne_nil _ hsome with ⟨template, htemplate⟩
  have hlength : (batch t triggers).length = 5458 := by
    rw [batch_length, hsize]
  refine ⟨frameOf sums deref (batch t triggers) template, ?_, ?_, ?_⟩
  · rw [asyncSendMRP_frames (by lia)]
    exact List.mem_map_of_mem htemplate
  · rw [frameOf_length, hlength]
  · rw [field_totLen_frameOf, hlength]
    decide

theorem exactLengths_fails_at_5458 :
    exists t : Templates, exists as : List Sender.Action,
      Initialize loopbackHost jumboConfig Templates.initial = .ok t ∧
        let s := Runs.run (Sender.step loopbackHost ChecksumFunctions.reference t)
          Sender.State.initial as
        let sent := asyncSendMRP loopbackHost ChecksumFunctions.reference t
          Sender.Trigger.hdr s.multicastRequests
        s.pc = .send ∧ s.multicastRequests.length = 5458 ∧
          ¬ ExactLengths 5458 sent ∧
          exists frame, frame ∈ sent.frames ∧ frame.length = 65550 ∧
            field 16 2 frame = 0 := by
  have hcfg : jumboConfig.WellFormed loopbackHost :=
    ⟨by decide, fun _ _ => rfl, by decide, by decide⟩
  rcases initialize_wellFormed hcfg with
    ⟨t, hinit, hmax, hunicast, _hmulticast⟩
  have hmaxNat : t.maxTriggersPerL1MRP.toNat = 5458 := by
    rw [hmax]
    rfl
  have hsome : t.l1UnicastRequestHdrs ++ t.l1MulticastRequestHdrs ≠ [] := by
    rw [hunicast]
    exact List.cons_ne_nil _ _
  generalize hrequests : List.replicate 5458 (requestedEvent 0, false) = requests
  have hcount : requests.length = 5458 := by
    rw [← hrequests, List.length_replicate]
  rcases Sender.run_assembles loopbackHost ChecksumFunctions.reference t requests
    (List.ne_nil_of_length_pos (by lia)) (by lia) with
    ⟨as, hpc, hbatch, _hmrps⟩
  refine ⟨t, as, hinit, ?_⟩
  generalize Runs.run (Sender.step loopbackHost ChecksumFunctions.reference t)
    Sender.State.initial as = s at hpc hbatch ⊢
  have hlength : s.multicastRequests.length = 5458 := by
    have h := congrArg List.length hbatch
    rwa [List.length_map, List.length_map, hcount] at h
  have hsize : batchSize t s.multicastRequests = 5458 := by
    rw [batchSize]
    lia
  refine ⟨hpc, hlength, ?_, totLen_wraps _ _ t _ _ hsize hsome⟩
  intro hexact
  rw [← hsize] at hexact
  rcases fits_of_exactLengths _ _ _ _ _ hexact with hfits | hnone
  · lia
  · exact hsome hnone.left

end L1
end FarmNetworking
