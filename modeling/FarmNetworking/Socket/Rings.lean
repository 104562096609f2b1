import Mathlib.Data.List.Basic

/-!
# Opening the rings

The constructor of the PF_RING handler makes one queue of every channel that the
library has opened.  The process ends when a ring cannot be enabled.  It does not
end when there is no channel: then the handler has no queue at all.
-/

namespace FarmNetworking
namespace Socket
namespace PFringHandler

/-- A `pfring` of the library, with the answer to `pfring_enable_ring`. -/
structure Pfring where
  enable : Int

/-- A `PFring` object of `queueRings_`. -/
structure QueueRing where
  ring : Option Pfring
  deviceName : String

def QueueRing.enableRing (q : QueueRing) : Int :=
  match q.ring with
  | some ring => ring.enable
  | none => -1

def queDeviceName (deviceName : String) (i : Nat) : String :=
  deviceName ++ "@" ++ toString i

/-- The loop over the channels from a number on.  The error is what is logged. -/
def openRings (deviceName : String) :
    List (Option Pfring) -> Nat -> Except String (List QueueRing)
  | [], _ => .ok []
  | ring :: rings, i =>
      let queue := { ring := ring, deviceName := queDeviceName deviceName i }
      if 0 ≤ queue.enableRing then
        match openRings deviceName rings (i + 1) with
        | .ok queues => .ok (queue :: queues)
        | .error name => .error name
      else .error queue.deviceName

/-- The queues of `pfring_open_multichannel`, at most 255 of them. -/
def networkHandler (deviceName : String) (rings : List (Option Pfring)) :
    Except String (List QueueRing) :=
  openRings deviceName rings 0

def ringsOf (queueRings : List QueueRing) (i : Fin queueRings.length) : Bool :=
  (queueRings.get i).ring.isSome

structure Opened (deviceName : String) (channels : List (Option Pfring)) (i : Nat)
    (queueRings : List QueueRing) : Prop where
  rings : queueRings.map QueueRing.ring = channels
  names : queueRings.map QueueRing.deviceName =
    (List.range' i channels.length).map (queDeviceName deviceName)
  enabled : forall q, q ∈ queueRings -> 0 ≤ q.enableRing

theorem openRings_opened {deviceName : String} {rings : List (Option Pfring)}
    {i : Nat} {queueRings : List QueueRing}
    (h : openRings deviceName rings i = .ok queueRings) :
    Opened deviceName rings i queueRings := by
  induction rings generalizing i queueRings with
  | nil =>
      cases h
      exact ⟨rfl, rfl, nofun⟩
  | cons ring rings ih =>
      rw [openRings] at h
      dsimp only at h
      split at h
      · next henabled =>
          split at h
          · next queues hrest =>
              cases h
              have hopened := ih hrest
              refine ⟨?_, ?_, List.forall_mem_cons.mpr ⟨henabled, hopened.enabled⟩⟩
              · rw [List.map_cons, hopened.rings]
              · rw [List.map_cons, hopened.names]
                rfl
          · cases h
      · cases h

theorem networkHandler_rings {deviceName : String} {rings : List (Option Pfring)}
    {queueRings : List QueueRing}
    (h : networkHandler deviceName rings = .ok queueRings)
    (i : Fin queueRings.length) : ringsOf queueRings i = true := by
  have henabled := (openRings_opened h).enabled _ (List.get_mem queueRings i)
  rw [ringsOf]
  rw [QueueRing.enableRing] at henabled
  split at henabled
  · next hring => rw [hring]; rfl
  · cases henabled

theorem networkHandler_length {deviceName : String} {rings : List (Option Pfring)}
    {queueRings : List QueueRing}
    (h : networkHandler deviceName rings = .ok queueRings) :
    queueRings.length = rings.length := by
  rw [← (openRings_opened h).rings, List.length_map]

end PFringHandler
end Socket
end FarmNetworking
