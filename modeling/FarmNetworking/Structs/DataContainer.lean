import FarmNetworking.Foundation.OnesComplement
import FarmNetworking.Structs.Network

/-!
# Data containers

`DataContainer` comes from another library of the farm.  What this repository
uses of it is the record that travels through the send queue and three static
checksum functions.  The functions are a parameter of the development;
`ChecksumFunctions.Documented` collects what their callers rely on.
-/

namespace FarmNetworking
namespace Structs

open Foundation ByteString OnesComplement

/-- A heap block with the address that tells it from other blocks. -/
structure Buffer where
  address : Nat
  bytes : List UInt8
  deriving DecidableEq

structure DataContainer where
  data : Buffer
  length : Nat
  ownerMayFreeData : Bool
  deriving DecidableEq

/--
The static functions of `DataContainer`.  A pointer argument is the memory from
the pointed-to byte on, followed by the number of bytes to read.
-/
structure ChecksumFunctions where
  generateChecksum : List UInt8 -> Nat -> UInt32 -> UInt16
  generateChecksumUnwrapped : List UInt8 -> Nat -> UInt32 -> UInt32
  wrapsum : UInt32 -> UInt16

namespace ChecksumFunctions

/--
`generateChecksum` complements the folded sum of the native 16-bit words,
`generateChecksumUnwrapped` adds big-endian words with end-around carry and
`wrapsum` complements such a sum and brings it into network byte order.
-/
structure Documented (f : ChecksumFunctions) : Prop where
  generateChecksum_eq : forall (data : List UInt8) (len : Nat) (sum : UInt32),
    len ≤ data.length -> len ≤ 65535 -> sum.toNat ≤ 65535 ->
      (f.generateChecksum data len sum).toNat =
        65535 - fold (sum.toNat + (leWords (data.take len)).sum) % 65536
  generateChecksumUnwrapped_eq :
    forall (data : List UInt8) (len : Nat) (sum : UInt32),
      len ≤ data.length -> sum.toNat ≤ 2 * 65535 ->
        (f.generateChecksumUnwrapped data len sum).toNat =
          endAroundSum sum.toNat (beWords (data.take len))
  wrapsum_eq : forall sum : UInt32,
    f.wrapsum sum = htons (UInt16.ofNat (65535 - sum.toNat % 65536))

def reference : ChecksumFunctions where
  generateChecksum data len sum :=
    UInt16.ofNat
      (65535 - fold (sum.toNat + (leWords (data.take len)).sum) % 65536)
  generateChecksumUnwrapped data len sum :=
    UInt32.ofNat (endAroundSum sum.toNat (beWords (data.take len)))
  wrapsum sum := htons (UInt16.ofNat (65535 - sum.toNat % 65536))

theorem reference_documented : reference.Documented := by
  constructor
  · intro data len sum _ _ _
    change (UInt16.ofNat _).toNat = _
    rw [UInt16.toNat_ofNat']
    exact Nat.mod_eq_of_lt (by lia)
  · intro data len sum _ hsum
    have hle : endAroundSum sum.toNat (beWords (data.take len)) ≤ 2 * 65535 :=
      endAroundSum_le (by decide) hsum (beWords_le _)
    change (UInt32.ofNat _).toNat = _
    rw [UInt32.toNat_ofNat']
    exact Nat.mod_eq_of_lt (by lia)
  · intro sum
    rfl

end ChecksumFunctions

end Structs
end FarmNetworking
