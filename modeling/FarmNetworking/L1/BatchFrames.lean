import FarmNetworking.L1.L1DistributionHandler

/-!
# The frames of one batch

What a call of `asyncSendMRP` does, stated without its loops: which triggers it
takes, which it leaves, and what the frame of each template contains.  Later
modules use these facts and do not unfold the loops again.
-/

namespace FarmNetworking
namespace L1

open Foundation ByteString
open Structs Socket EthernetUtils

variable {pointer : Type} {max : UInt32} {deref : pointer -> TriggerRawHDR}

def blocks (deref : pointer -> TriggerRawHDR) (triggers : List pointer) :
    List UInt8 :=
  triggers.flatMap fun trigger => (deref trigger).bytes

@[simp] theorem blocks_nil : blocks deref [] = [] := rfl

@[simp] theorem blocks_cons (trigger : pointer) (rest : List pointer) :
    blocks deref (trigger :: rest) =
      (deref trigger).bytes ++ blocks deref rest := rfl

@[simp] theorem blocks_length (triggers : List pointer) :
    (blocks deref triggers).length = 12 * triggers.length := by
  induction triggers with
  | nil => rfl
  | cons trigger rest ih =>
      rw [blocks_cons, List.length_append, ih, TriggerRawHDR.bytes_length,
        List.length_cons]
      lia

/-!
## The pop loop

From a counter that has not passed the bound, the loop takes triggers from the
stack until the counter reaches the bound.  All facts are by induction on the
stack; the counter moves one closer to the bound with every trigger, which is
what makes the test for inequality safe.
-/

def taken (max : UInt32) (f : Filling pointer) (stack : List pointer) :
    List pointer :=
  stack.take (max.toNat - f.numberOfTriggers.toNat)

def fillOne (deref : pointer -> TriggerRawHDR) (f : Filling pointer)
    (trigger : pointer) : Filling pointer where
  offset := f.offset + 12
  buff := copyAt f.buff f.offset (deref trigger).bytes
  numberOfTriggers := f.numberOfTriggers + 1
  placed := f.placed ++ [trigger]
  overrun := f.overrun || f.buff.length < f.offset + 12

theorem fillLoop_full (deref : pointer -> TriggerRawHDR)
    (f : Filling pointer) (stack : List pointer) (h : f.numberOfTriggers = max) :
    fillLoop max deref stack f = (stack, f) ∧ taken max f stack = [] := by
  constructor
  · cases stack with
    | nil => rfl
    | cons trigger rest => rw [fillLoop, if_pos h]
  · rw [taken, h, Nat.sub_self, List.take_zero]

theorem fillLoop_room (deref : pointer -> TriggerRawHDR)
    (f : Filling pointer) (trigger : pointer) (rest : List pointer)
    (hle : f.numberOfTriggers.toNat ≤ max.toNat)
    (h : f.numberOfTriggers ≠ max) :
    fillLoop max deref (trigger :: rest) f =
        fillLoop max deref rest (fillOne deref f trigger) ∧
      (fillOne deref f trigger).numberOfTriggers.toNat =
        f.numberOfTriggers.toNat + 1 ∧
      f.numberOfTriggers.toNat < max.toNat ∧
      taken max f (trigger :: rest) =
        trigger :: taken max (fillOne deref f trigger) rest := by
  have hlt : f.numberOfTriggers.toNat < max.toNat := by
    have hne : f.numberOfTriggers.toNat ≠ max.toNat :=
      fun heq => h (UInt32.toNat_inj.mp heq)
    lia
  have hmax : max.toNat < 4294967296 := max.toNat_lt
  have hnext : (f.numberOfTriggers + 1).toNat = f.numberOfTriggers.toNat + 1 := by
    rw [UInt32.toNat_add]
    exact Nat.mod_eq_of_lt (by simp; lia)
  refine ⟨?_, hnext, hlt, ?_⟩
  · rw [fillLoop, if_neg h]
    rfl
  · have hroom : max.toNat - f.numberOfTriggers.toNat =
        max.toNat - (f.numberOfTriggers + 1).toNat + 1 := by
      lia
    rw [taken, hroom, List.take_succ_cons]
    rfl

theorem fillLoop_stack (f : Filling pointer) (stack : List pointer)
    (hle : f.numberOfTriggers.toNat ≤ max.toNat) :
    (fillLoop max deref stack f).1 =
      stack.drop (max.toNat - f.numberOfTriggers.toNat) := by
  induction stack generalizing f with
  | nil => simp [fillLoop]
  | cons trigger rest ih =>
      by_cases h : f.numberOfTriggers = max
      · rw [(fillLoop_full deref f _ h).left, h, Nat.sub_self, List.drop_zero]
      · rcases fillLoop_room deref f trigger rest hle h with
          ⟨hloop, hnext, hlt, _⟩
        rw [hloop, ih _ (by lia), hnext]
        rw [show max.toNat - f.numberOfTriggers.toNat =
          max.toNat - (f.numberOfTriggers.toNat + 1) + 1 by lia,
          List.drop_succ_cons]

theorem fillLoop_placed (f : Filling pointer) (stack : List pointer)
    (hle : f.numberOfTriggers.toNat ≤ max.toNat) :
    (fillLoop max deref stack f).2.placed =
      f.placed ++ taken max f stack := by
  induction stack generalizing f with
  | nil => simp [fillLoop, taken]
  | cons trigger rest ih =>
      by_cases h : f.numberOfTriggers = max
      · rw [(fillLoop_full deref f _ h).left, (fillLoop_full deref f _ h).right,
          List.append_nil]
      · rcases fillLoop_room deref f trigger rest hle h with
          ⟨hloop, hnext, hlt, htaken⟩
        rw [hloop, ih _ (by lia), htaken]
        simp [fillOne]

theorem fillLoop_counts (f : Filling pointer) (stack : List pointer)
    (hle : f.numberOfTriggers.toNat ≤ max.toNat) :
    (fillLoop max deref stack f).2.numberOfTriggers.toNat =
        f.numberOfTriggers.toNat + (taken max f stack).length ∧
      (fillLoop max deref stack f).2.offset =
        f.offset + 12 * (taken max f stack).length ∧
      (fillLoop max deref stack f).2.buff.length = f.buff.length := by
  induction stack generalizing f with
  | nil => simp [fillLoop, taken]
  | cons trigger rest ih =>
      by_cases h : f.numberOfTriggers = max
      · rw [(fillLoop_full deref f _ h).left, (fillLoop_full deref f _ h).right]
        simp
      · rcases fillLoop_room deref f trigger rest hle h with
          ⟨hloop, hnext, hlt, htaken⟩
        rcases ih (fillOne deref f trigger) (by lia) with
          ⟨hnumber, hoffset, hlength⟩
        have hfill : (fillOne deref f trigger).offset = f.offset + 12 := rfl
        rw [hloop, htaken, hnumber, hoffset, hlength, List.length_cons, hnext,
          hfill]
        refine ⟨by lia, by lia, ?_⟩
        rw [fillOne, copyAt_length]

theorem fillLoop_overrun (f : Filling pointer) (stack : List pointer)
    (hle : f.numberOfTriggers.toNat ≤ max.toNat) :
    ((fillLoop max deref stack f).2.overrun ||
        decide ((fillLoop max deref stack f).2.buff.length <
          (fillLoop max deref stack f).2.offset)) =
      (f.overrun || decide (f.buff.length <
        f.offset + 12 * (taken max f stack).length)) := by
  induction stack generalizing f with
  | nil =>
      rw [fillLoop, taken, List.take_nil]
      rfl
  | cons trigger rest ih =>
      by_cases h : f.numberOfTriggers = max
      · rw [(fillLoop_full deref f _ h).left, (fillLoop_full deref f _ h).right]
        simp
      · rcases fillLoop_room deref f trigger rest hle h with
          ⟨hloop, hnext, hlt, htaken⟩
        rw [hloop, htaken, ih _ (by lia), List.length_cons]
        simp only [fillOne, copyAt_length, Bool.or_assoc]
        congr 1
        rw [← Bool.decide_or]
        apply decide_eq_decide.mpr
        lia

theorem fillLoop_buff (f : Filling pointer) (stack : List pointer)
    (front gap : List UInt8) (hle : f.numberOfTriggers.toNat ≤ max.toNat)
    (hbuff : f.buff = front ++ gap) (hfront : front.length = f.offset)
    (hgap : 12 * (taken max f stack).length ≤ gap.length) :
    (fillLoop max deref stack f).2.buff =
      front ++ (blocks deref (taken max f stack) ++
        gap.drop (12 * (taken max f stack).length)) := by
  induction stack generalizing f front gap with
  | nil => simp [fillLoop, taken, hbuff]
  | cons trigger rest ih =>
      by_cases h : f.numberOfTriggers = max
      · rw [(fillLoop_full deref f _ h).left, (fillLoop_full deref f _ h).right]
        simp [hbuff]
      · rcases fillLoop_room deref f trigger rest hle h with
          ⟨hloop, hnext, hlt, htaken⟩
        rw [htaken, List.length_cons] at hgap
        have hsplit : gap = gap.take 12 ++ gap.drop 12 :=
          (List.take_append_drop 12 gap).symm
        have hblock : (gap.take 12).length = (deref trigger).bytes.length := by
          rw [List.length_take, TriggerRawHDR.bytes_length]
          lia
        have hcopy : (fillOne deref f trigger).buff =
            (front ++ (deref trigger).bytes) ++ gap.drop 12 := by
          rw [fillOne, hbuff, ← hfront, List.append_assoc]
          conv_lhs => rw [hsplit]
          exact copyAt_append hblock
        have hfront' : (front ++ (deref trigger).bytes).length =
            (fillOne deref f trigger).offset := by
          rw [List.length_append, hfront, TriggerRawHDR.bytes_length]
          rfl
        have hgap' : 12 * (taken max (fillOne deref f trigger) rest).length ≤
            (gap.drop 12).length := by
          rw [List.length_drop]
          lia
        rw [hloop, htaken, ih _ _ _ (by lia) hcopy hfront' hgap', blocks_cons,
          List.drop_drop, List.length_cons, List.append_assoc,
          List.append_assoc, Nat.mul_succ, Nat.add_comm 12]

/-!
## The whole call
-/

section Call

variable {host : Host} {sums : ChecksumFunctions} {t : Templates}
  {triggers : List pointer}

def batchSize (t : Templates) (triggers : List pointer) : Nat :=
  min triggers.length t.maxTriggersPerL1MRP.toNat

/-- The triggers that one call places, in the order of their blocks. -/
def batch (t : Templates) (triggers : List pointer) : List pointer :=
  triggers.reverse.take t.maxTriggersPerL1MRP.toNat

@[simp] theorem batch_length (t : Templates) (triggers : List pointer) :
    (batch t triggers).length = batchSize t triggers := by
  rw [batch, batchSize, List.length_take, List.length_reverse, Nat.min_comm]

theorem batchSize_lt (t : Templates) (triggers : List pointer) :
    batchSize t triggers < 4294967296 := by
  have hmax : t.maxTriggersPerL1MRP.toNat < 4294967296 :=
    t.maxTriggersPerL1MRP.toNat_lt
  rw [batchSize]
  lia

def startFilling (host : Host) (size : Nat) : Filling pointer where
  offset := 54
  buff := freshBlock host size
  numberOfTriggers := 0
  placed := []
  overrun := false

def filled (host : Host) (t : Templates)
    (deref : pointer -> TriggerRawHDR) (triggers : List pointer) :
    Filling pointer :=
  (fillLoop t.maxTriggersPerL1MRP deref triggers.reverse
    (startFilling host ((54 + 12 * batchSize t triggers) % 4294967296))).2

theorem taken_start (host : Host) (size : Nat) (t : Templates)
    (triggers : List pointer) :
    taken t.maxTriggersPerL1MRP (startFilling host size) triggers.reverse =
      batch t triggers := rfl

theorem asyncSendMRP_unfold :
    asyncSendMRP host sums t deref triggers =
      { triggers := (fillLoop t.maxTriggersPerL1MRP deref triggers.reverse
          (startFilling host
            ((54 + 12 * batchSize t triggers) % 4294967296))).1.reverse
        placed := (filled host t deref triggers).placed
        numberOfTriggers := (filled host t deref triggers).numberOfTriggers
        sizeOfMRP := UInt32.ofNat (54 + 12 * batchSize t triggers)
        frames := (t.l1UnicastRequestHdrs ++ t.l1MulticastRequestHdrs).map
          (buildFrame host sums (filled host t deref triggers).buff
            (filled host t deref triggers).offset
            (filled host t deref triggers).numberOfTriggers)
        overrun := (filled host t deref triggers).overrun ||
          decide ((filled host t deref triggers).buff.length <
            (filled host t deref triggers).offset) } := by
  have hsize : (if t.maxTriggersPerL1MRP.toNat < triggers.length
      then t.maxTriggersPerL1MRP.toNat else triggers.length) =
      batchSize t triggers := by
    rw [batchSize]
    split <;> lia
  have hnat : (UInt32.ofNat (54 + 12 * batchSize t triggers)).toNat =
      (54 + 12 * batchSize t triggers) % 4294967296 :=
    UInt32.toNat_ofNat'
  simp only [asyncSendMRP, hsize, hnat]
  rfl

section Filled

variable (host : Host) (t : Templates) (deref : pointer -> TriggerRawHDR)
  (triggers : List pointer)

theorem filled_placed :
    (filled host t deref triggers).placed = batch t triggers := by
  rw [filled, fillLoop_placed _ _ (Nat.zero_le _), taken_start]
  rfl

theorem filled_numberOfTriggers :
    (filled host t deref triggers).numberOfTriggers =
      UInt32.ofNat (batchSize t triggers) := by
  have hlt := batchSize_lt t triggers
  apply UInt32.toNat_inj.mp
  rw [filled, (fillLoop_counts _ _ (Nat.zero_le _)).left, taken_start,
    batch_length, UInt32.toNat_ofNat', Nat.mod_eq_of_lt hlt]
  exact Nat.zero_add _

theorem filled_offset :
    (filled host t deref triggers).offset =
      54 + 12 * batchSize t triggers := by
  rw [filled, (fillLoop_counts _ _ (Nat.zero_le _)).right.left, taken_start,
    batch_length]
  rfl

theorem filled_overrun :
    ((filled host t deref triggers).overrun ||
        decide ((filled host t deref triggers).buff.length <
          (filled host t deref triggers).offset)) =
      decide (4294967296 ≤ 54 + 12 * batchSize t triggers) := by
  have hsize : (startFilling host
      ((54 + 12 * batchSize t triggers) % 4294967296) :
        Filling pointer).buff.length =
      (54 + 12 * batchSize t triggers) % 4294967296 := by
    simp [startFilling, freshBlock]
  rw [filled, fillLoop_overrun _ _ (Nat.zero_le _), taken_start, batch_length,
    hsize]
  change decide (_ < 54 + 12 * batchSize t triggers) = _
  apply decide_eq_decide.mpr
  have hlt := batchSize_lt t triggers
  constructor
  · intro h
    by_contra hsmall
    rw [Nat.mod_eq_of_lt (by lia)] at h
    exact Nat.lt_irrefl _ h
  · intro h
    have hmod := Nat.mod_lt (54 + 12 * batchSize t triggers)
      (show 0 < 4294967296 by decide)
    lia

theorem filled_buff (hsize : 54 + 12 * batchSize t triggers < 4294967296) :
    (filled host t deref triggers).buff =
      freshBlock host 54 ++ blocks deref (batch t triggers) := by
  have hmod := Nat.mod_eq_of_lt hsize
  have hfresh : freshBlock host (54 + 12 * batchSize t triggers) =
      freshBlock host 54 ++
        (freshBlock host (54 + 12 * batchSize t triggers)).drop 54 := by
    conv_lhs => rw [← List.take_append_drop 54 (freshBlock host _)]
    congr 1
    simp [freshBlock, ← List.map_take, List.take_range]
  have hlength : (freshBlock host 54).length = 54 := by simp [freshBlock]
  have hgap : ((freshBlock host (54 + 12 * batchSize t triggers)).drop 54).length =
      12 * batchSize t triggers := by
    simp [freshBlock]
  rw [filled, hmod, fillLoop_buff _ _ (freshBlock host 54)
    ((freshBlock host (54 + 12 * batchSize t triggers)).drop 54)
    (Nat.zero_le _) hfresh hlength]
  · rw [taken_start, batch_length, List.drop_of_length_le (by rw [hgap]),
      List.append_nil]
  · rw [taken_start, batch_length, hgap]

end Filled

/-- The effect of one call, without its loops. -/
theorem asyncSendMRP_eq :
    asyncSendMRP host sums t deref triggers =
      { triggers := triggers.take
          (triggers.length - t.maxTriggersPerL1MRP.toNat)
        placed := batch t triggers
        numberOfTriggers := UInt32.ofNat (batchSize t triggers)
        sizeOfMRP := UInt32.ofNat (54 + 12 * batchSize t triggers)
        frames := (t.l1UnicastRequestHdrs ++ t.l1MulticastRequestHdrs).map
          (buildFrame host sums (filled host t deref triggers).buff
            (54 + 12 * batchSize t triggers)
            (UInt32.ofNat (batchSize t triggers)))
        overrun := decide (4294967296 ≤ 54 + 12 * batchSize t triggers) } := by
  have hrest : (fillLoop t.maxTriggersPerL1MRP deref triggers.reverse
      (startFilling host
        ((54 + 12 * batchSize t triggers) % 4294967296))).1.reverse =
      triggers.take (triggers.length - t.maxTriggersPerL1MRP.toNat) := by
    rw [fillLoop_stack _ _ (Nat.zero_le _)]
    change (triggers.reverse.drop t.maxTriggersPerL1MRP.toNat).reverse = _
    rw [List.drop_reverse, List.reverse_reverse]
  rw [asyncSendMRP_unfold, hrest, filled_placed, filled_numberOfTriggers,
    filled_offset, ← filled_overrun host t deref triggers, filled_offset]

/-!
## One frame
-/

/-- What lies behind the header: the same bytes in the frames of all templates. -/
def payload (host : Host) (buff : List UInt8) (offset : Nat) : List UInt8 :=
  (copyAt (freshBlock host offset) 0 (buff.take offset)).drop 54

theorem buildFrame_eq (buff : List UInt8) {offset : Nat} (n : UInt32)
    (dataHDR : MRPFrameHDR) (h : 54 ≤ offset) :
    buildFrame host sums buff offset n dataHDR =
      (finishHeader sums dataHDR (payload host buff offset) n).bytes ++
        payload host buff offset := by
  have hroom : dataHDR.bytes.length ≤
      (copyAt (freshBlock host offset) 0 (buff.take offset)).length := by
    simp [freshBlock, h]
  have hdrop : (dataHDR.bytes ++
      (copyAt (freshBlock host offset) 0 (buff.take offset)).drop
        dataHDR.bytes.length).drop 54 = payload host buff offset := by
    rw [drop_append_right (by simp), MRPFrameHDR.bytes_length]
    rfl
  simp only [buildFrame]
  rw [copyAt_zero hroom, MRPFrameHDR.ofBytes_bytes, hdrop]

theorem payload_filled (hsize : 54 + 12 * batchSize t triggers < 4294967296) :
    payload host (filled host t deref triggers).buff
        (54 + 12 * batchSize t triggers) =
      blocks deref (batch t triggers) := by
  have hlength : (freshBlock host 54 ++ blocks deref (batch t triggers)).length =
      54 + 12 * batchSize t triggers := by
    simp [freshBlock]
  have hfresh : (freshBlock host (54 + 12 * batchSize t triggers)).length =
      54 + 12 * batchSize t triggers := by
    simp [freshBlock]
  rw [payload, filled_buff host t deref triggers hsize,
    List.take_of_length_le (Nat.le_of_eq hlength),
    copyAt_zero (Nat.le_of_eq (hlength.trans hfresh.symm)),
    List.drop_of_length_le (Nat.le_of_eq (hfresh.trans hlength.symm)),
    List.append_nil, drop_append_right (by simp [freshBlock])]
  simp [freshBlock]

/-- The frame of a template when the batch fits the buffer. -/
def frameOf (sums : ChecksumFunctions) (deref : pointer -> TriggerRawHDR)
    (triggers : List pointer) (dataHDR : MRPFrameHDR) : List UInt8 :=
  (finishHeader sums dataHDR (blocks deref triggers)
    (UInt32.ofNat triggers.length)).bytes ++ blocks deref triggers

theorem asyncSendMRP_frames
    (hsize : 54 + 12 * batchSize t triggers < 4294967296) :
    (asyncSendMRP host sums t deref triggers).frames =
      (t.l1UnicastRequestHdrs ++ t.l1MulticastRequestHdrs).map
        (frameOf sums deref (batch t triggers)) := by
  rw [asyncSendMRP_eq]
  apply List.map_congr_left
  intro dataHDR _
  rw [buildFrame_eq _ _ _ (by lia), payload_filled hsize, frameOf,
    batch_length]

theorem frameOf_length (triggers : List pointer) (dataHDR : MRPFrameHDR) :
    (frameOf sums deref triggers dataHDR).length =
      54 + 12 * triggers.length := by
  rw [frameOf, List.length_append, MRPFrameHDR.bytes_length, blocks_length]

end Call

end L1
end FarmNetworking
