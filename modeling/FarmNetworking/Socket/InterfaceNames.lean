import FarmNetworking.Foundation.CStrings
import FarmNetworking.Structs.Network

/-!
# Names of network interfaces

Both lookups of `socket/EthernetUtils.cpp` cut a device name down to the name of
its interface and put it into the name field of an `ifreq`.  The calls into the
kernel are modelled by the names that they pass; what the kernel knows of its
interfaces is a parameter.
-/

namespace FarmNetworking
namespace Socket
namespace EthernetUtils

open Foundation CStrings
open Structs

/-- `IFNAMSIZ` bytes: the field `ifr_name` of an `ifreq`. -/
abbrev IfrName := Vector UInt8 16

def colon : UInt8 := 0x3a
def atSign : UInt8 := 0x40

/-- `dna:ethX@Y` becomes `ethX`; a missing part is not an error. -/
def interfaceName (iface : List UInt8) : List UInt8 :=
  let iface :=
    if 0 < find colon iface then
      substr iface (posAfter (find colon iface)) npos
    else iface
  if 0 < find atSign iface then substr iface 0 (find atSign iface) else iface

theorem interfaceName_plain {iface : List UInt8} (hcolon : colon ∉ iface)
    (hat : atSign ∉ iface) (hsize : iface.length ≤ npos) :
    interfaceName iface = iface := by
  have hpos : 0 < npos := by decide
  rw [interfaceName]
  simp only [find_absent hcolon, find_absent hat, posAfter_npos, if_pos hpos,
    substr_all hsize]

/-- The name field in `GetMacOfInterface`, where the structure is cleared. -/
def macRequest (iface : List UInt8) : List UInt8 :=
  strcpy (List.replicate 16 0) (interfaceName iface)

/-- The name field in `GetIPOfInterface`, with its content from before. -/
def ipRequest (ifr : IfrName) (iface : List UInt8) : List UInt8 :=
  strncpy ifr.toList (interfaceName iface) (16 - 1)

/-!
## The lookups
-/

end EthernetUtils
end Socket
end FarmNetworking
