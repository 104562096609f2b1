import FarmNetworking.L1.FrameFields

/-!
# What a receiver reads

The abstract content of a multi-request packet is what a front end obtains by
reading the frame in network byte order at the documented offsets.  This module
states the content that a batch of requests should have and proves that every
frame of the batch has it.
-/

namespace FarmNetworking
namespace L1

open Foundation ByteString
open Structs Socket EthernetUtils

structure ReceivedTrigger where
  timestamp : Nat
  fineTime : Nat
  requestZeroSuppressed : Nat
  triggerTypeWord : Nat
  reserved : Nat
  eventNumber : Nat
  deriving DecidableEq

structure ReceivedMRP where
  totLen : Nat
  udpLen : Nat
  numberOfTriggers : Nat
  mrpLength : Nat
  triggers : List ReceivedTrigger
  deriving DecidableEq

def receiveTrigger (block : List UInt8) : ReceivedTrigger where
  timestamp := field 0 4 block
  fineTime := field 4 1 block
  requestZeroSuppressed := field 5 1 block
  triggerTypeWord := field 6 2 block
  reserved := field 8 1 block
  eventNumber := field 9 3 block

def receiveTriggers : Nat -> List UInt8 -> List ReceivedTrigger
  | 0, _ => []
  | n + 1, data => receiveTrigger data :: receiveTriggers n (data.drop 12)

def receive (frame : List UInt8) : ReceivedMRP where
  totLen := field 16 2 frame
  udpLen := field 38 2 frame
  numberOfTriggers := field 42 2 frame
  mrpLength := field 44 2 frame
  triggers := receiveTriggers (field 42 2 frame) (frame.drop 54)

/-- The content requested for an event.  Event numbers have 24 bits on the wire. -/
def requested (event : Event) (zSuppressed : Bool) : ReceivedTrigger where
  timestamp := event.timestamp.toNat
  fineTime := event.finetime.toNat
  requestZeroSuppressed := if zSuppressed then 1 else 0
  triggerTypeWord := event.triggerTypeWord.toNat
  reserved := 0
  eventNumber := event.eventNumber.toNat % 16777216

/-!
## One trigger
-/

theorem beNat_leBytes_htonl (x : UInt32) :
    beNat (leBytes 4 (htonl x).toNat) = x.toNat := by
  have hlt : x.toNat < 256 ^ 4 := x.toNat_lt
  rw [leBytes_htonl, beNat_beBytes, Nat.mod_eq_of_lt hlt]

theorem beNat_leBytes_htons (x : UInt16) :
    beNat (leBytes 2 (htons x).toNat) = x.toNat := by
  rw [beNat_leBytes, ntohs_htons]

theorem beNat_singleton (b : UInt8) : beNat [b] = b.toNat := by
  simp [beNat]

/-- The bit-field filled from the shifted word holds the low 24 bits. -/
theorem leBytes_eventNumber (e : UInt32) :
    leBytes 3 (BitVec.ofNat 24 (htonl e >>> 8).toNat).toNat =
      beBytes 3 e.toNat := by
  have hshift : (htonl e >>> 8).toNat = swapBytes 3 e.toNat := by
    have hword := swapBytes_succ_div 3 e.toNat
    rw [UInt32.toNat_shiftRight, htonl_toNat, ← hword]
    exact Nat.shiftRight_eq_div_pow _ 8
  have hlt : swapBytes 3 e.toNat < 2 ^ 24 := swapBytes_lt 3 e.toNat
  rw [hshift, BitVec.toNat_ofNat, Nat.mod_eq_of_lt hlt, leBytes_swapBytes]

theorem receiveTrigger_generateTriggerHDR (event : Event) (zSuppressed : Bool)
    (rest : List UInt8) :
    receiveTrigger ((generateTriggerHDR event zSuppressed).bytes ++ rest) =
      requested event zSuppressed := by
  have hevent : beNat (beBytes 3 event.eventNumber.toNat) =
      event.eventNumber.toNat % 16777216 :=
    beNat_beBytes 3 event.eventNumber.toNat
  have hflag : (if zSuppressed then (1 : UInt8) else 0).toNat =
      if zSuppressed then 1 else 0 := by
    cases zSuppressed <;> rfl
  simp only [receiveTrigger, requested, field, TriggerRawHDR.bytes,
    generateTriggerHDR, leBytes_eventNumber, ReceivedTrigger.mk.injEq]
  refine ⟨?_, ?_, ?_, ?_, ?_, ?_⟩
  · simp (disch := simp) [slice_append_here, beNat_leBytes_htonl]
  · simp (disch := simp) [slice_append_right, slice_head, beNat_singleton]
  · simp (disch := simp) [slice_append_right, slice_cons, slice_head,
      beNat_singleton, hflag]
  · simp (disch := simp) [slice_append_right, slice_append_here, slice_cons,
      beNat_leBytes_htons]
  · simp (disch := simp) [slice_append_right, slice_cons, slice_head,
      beNat_singleton]
  · simp (disch := simp) [slice_append_right, slice_append_here, slice_cons,
      hevent]

theorem receiveTriggers_blocks {pointer : Type}
    {deref : pointer -> TriggerRawHDR} {value : pointer -> ReceivedTrigger}
    (hvalue : forall p rest,
      receiveTrigger ((deref p).bytes ++ rest) = value p)
    (triggers : List pointer) :
    receiveTriggers triggers.length (blocks deref triggers) =
      triggers.map value := by
  induction triggers with
  | nil => rfl
  | cons p rest ih =>
      rw [List.length_cons, receiveTriggers, blocks_cons, hvalue,
        drop_append_right (by simp), TriggerRawHDR.bytes_length, Nat.sub_self,
        List.drop_zero, ih, List.map_cons]

/-!
## One frame
-/

theorem receive_frameOf {pointer : Type} {deref : pointer -> TriggerRawHDR}
    {value : pointer -> ReceivedTrigger} (sums : ChecksumFunctions)
    (hvalue : forall p rest,
      receiveTrigger ((deref p).bytes ++ rest) = value p)
    (triggers : List pointer) (template : MRPFrameHDR)
    (h : 40 + 12 * triggers.length ≤ 65535) :
    receive (frameOf sums deref triggers template) =
      { totLen := 40 + 12 * triggers.length
        udpLen := 20 + 12 * triggers.length
        numberOfTriggers := triggers.length
        mrpLength := 12 + 12 * triggers.length
        triggers := triggers.map value } := by
  rcases frameOf_fields sums deref triggers template h with
    ⟨htotLen, hudpLen, hnumber, hmrpLength⟩
  have hdrop : (frameOf sums deref triggers template).drop 54 =
      blocks deref triggers := by
    rw [frameOf, drop_append_right (by simp), MRPFrameHDR.bytes_length,
      Nat.sub_self, List.drop_zero]
  rw [receive, hnumber, hdrop, receiveTriggers_blocks hvalue, htotLen,
    hudpLen, hmrpLength]

end L1
end FarmNetworking
