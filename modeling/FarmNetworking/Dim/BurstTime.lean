import FarmNetworking.Dim.DimListener

/-!
# Reading a burst time update

The handler takes any content that is not empty for four integers.  What it does
is right for the contents that hold them.
-/

namespace FarmNetworking
namespace Dim

open Foundation ByteString
open Structs

theorem rawbti_eq (data : List UInt8) (i : Nat) :
    rawbti data i =
      ((UInt32.ofNat (leNat (slice (4 * i) 4 data))).toInt32, 4 * i + 4) := rfl

theorem readBurstTime_memory {p : Payload} (h : 16 ≤ p.bytes.length) :
    readBurstTime p.memory = readBurstTime p.bytes := by
  have hread : forall i, i < 4 -> rawbti p.memory i = rawbti p.bytes i := by
    intro i hi
    have hinside : 4 * i + 4 ≤ p.bytes.length := by lia
    rw [rawbti_eq, rawbti_eq, Payload.memory, slice_append_left hinside]
  rw [readBurstTime, readBurstTime, hread 0 (by lia), hread 1 (by lia),
    hread 2 (by lia), hread 3 (by lia)]

def Announces (payload : List UInt8) : Prop :=
  16 ≤ payload.length ∧ (decodeBurstTime payload).eobTime ≠ 0 ∧
    (decodeBurstTime payload).runNumber ≠ 0

instance (payload : List UInt8) : Decidable (Announces payload) :=
  inferInstanceAs (Decidable (_ ∧ _ ∧ _))

/--
The handler stays inside the content, and it calls every listener once, in the
order of their registration, or none of them.
-/
structure ParsedSafely {callback : Type} (l : DimListener callback) : Prop where
  inside : (l.infoHandler .burstTimeInfo).bytesRead ≤
    l.burstTimeInfo_.bytes.length
  calls : (l.infoHandler .burstTimeInfo).calls =
    if Announces l.burstTimeInfo_.bytes then
      l.burstTimeInfoCallbacks.map fun c =>
        .burstTimeInfo c (decodeBurstTime l.burstTimeInfo_.bytes)
    else []

/-- Only a content of one to fifteen bytes is not parsed safely. -/
theorem parsedSafely_iff {callback : Type} (l : DimListener callback) :
    ParsedSafely l <->
      l.burstTimeInfo_.bytes.length = 0 ∨
        16 ≤ l.burstTimeInfo_.bytes.length := by
  constructor
  · intro h
    have hinside := h.inside
    simp only [DimListener.infoHandler] at hinside
    split at hinside
    · rw [readBurstTime_bytesRead] at hinside
      exact Or.inr hinside
    · lia
  · rintro (hempty | hfull)
    · have hnone : l.infoHandler .burstTimeInfo =
          { calls := [], bytesRead := 0 } := by
        rw [DimListener.infoHandler, if_neg (not_not.mpr hempty)]
      have hsilent : ¬Announces l.burstTimeInfo_.bytes := by
        intro h
        have hlength := h.left
        lia
      constructor
      · rw [hnone]
        exact Nat.zero_le _
      · rw [hnone, if_neg hsilent]
    · have hpresent : l.burstTimeInfo_.bytes.length ≠ 0 := by lia
      constructor
      · rw [DimListener.infoHandler, if_pos hpresent]
        show (readBurstTime l.burstTimeInfo_.memory).2 ≤ _
        rw [readBurstTime_bytesRead]
        exact hfull
      · rw [DimListener.infoHandler, if_pos hpresent, readBurstTime_memory hfull]
        simp only [Announces, hfull, true_and]
        rfl

/-- A listener that has received four bytes of a burst time. -/
def truncatedUpdate : DimListener Unit :=
  { DimListener.initial with
    burstTimeInfo_ := { bytes := [1, 0, 0, 0], behind := List.replicate 12 1 }
    burstTimeInfoCallbacks := [()] }

/-- The callback is called with three integers from behind the content. -/
theorem truncatedUpdate_not_parsedSafely : ¬ParsedSafely truncatedUpdate := by
  intro h
  have hcalls := h.calls
  revert hcalls
  decide

end Dim
end FarmNetworking
