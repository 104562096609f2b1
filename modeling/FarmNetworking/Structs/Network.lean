import FarmNetworking.Foundation.ByteString

/-!
# Network headers

The packed structures of `structs/Network.h` and the system headers it is made
of.  A field holds the value that a little-endian host sees in it, so a field
filled with `htons` holds the swapped number.  `bytes` gives the object
representation: the fields in order, without padding, each of them little-endian.

Offsets inside a `UDPHDR`: Ethernet 0, IP 14, UDP 34, end 42.
-/

namespace FarmNetworking
namespace Structs

open Foundation ByteString

/-!
## Byte order

The host is little-endian, so the conversions to and from network byte order are
the same byte swap.
-/

def htons (x : UInt16) : UInt16 :=
  UInt16.ofNat (swapBytes 2 x.toNat)

def ntohs (x : UInt16) : UInt16 :=
  htons x

def htonl (x : UInt32) : UInt32 :=
  UInt32.ofNat (swapBytes 4 x.toNat)

theorem htons_toNat (x : UInt16) : (htons x).toNat = swapBytes 2 x.toNat := by
  have hlt := swapBytes_lt 2 x.toNat
  rw [htons, UInt16.toNat_ofNat']
  exact Nat.mod_eq_of_lt hlt

theorem htonl_toNat (x : UInt32) : (htonl x).toNat = swapBytes 4 x.toNat := by
  have hlt := swapBytes_lt 4 x.toNat
  rw [htonl, UInt32.toNat_ofNat']
  exact Nat.mod_eq_of_lt hlt

@[simp] theorem ntohs_htons (x : UInt16) : ntohs (htons x) = x := by
  apply UInt16.toNat_inj.mp
  rw [ntohs, htons_toNat, htons_toNat, swapBytes_swapBytes]
  exact Nat.mod_eq_of_lt x.toNat_lt

/-- A field filled with `htons` is stored in network byte order. -/
theorem leBytes_htons (x : UInt16) :
    leBytes 2 (htons x).toNat = beBytes 2 x.toNat := by
  rw [htons_toNat, leBytes_swapBytes]

theorem leBytes_htonl (x : UInt32) :
    leBytes 4 (htonl x).toNat = beBytes 4 x.toNat := by
  rw [htonl_toNat, leBytes_swapBytes]

/-!
## System headers
-/

/-- `ETH_ALEN` bytes. -/
abbrev MacAddress := Vector UInt8 6

structure EtherHeader where
  etherDhost : MacAddress
  etherShost : MacAddress
  etherType : UInt16
  deriving DecidableEq

structure Iphdr where
  ihl : BitVec 4
  version : BitVec 4
  tos : UInt8
  totLen : UInt16
  id : UInt16
  fragOff : UInt16
  ttl : UInt8
  protocol : UInt8
  check : UInt16
  saddr : UInt32
  daddr : UInt32
  deriving DecidableEq

structure Udphdr where
  source : UInt16
  dest : UInt16
  len : UInt16
  check : UInt16
  deriving DecidableEq

def EtherHeader.bytes (h : EtherHeader) : List UInt8 :=
  h.etherDhost.toList ++ (h.etherShost.toList ++ leBytes 2 h.etherType.toNat)

def Iphdr.bytes (h : Iphdr) : List UInt8 :=
  -- `ihl` is declared first and therefore takes the low half of the byte
  [UInt8.ofNat (h.ihl.toNat + 16 * h.version.toNat), h.tos] ++
    (leBytes 2 h.totLen.toNat ++ (leBytes 2 h.id.toNat ++
    (leBytes 2 h.fragOff.toNat ++ ([h.ttl, h.protocol] ++
    (leBytes 2 h.check.toNat ++ (leBytes 4 h.saddr.toNat ++
    leBytes 4 h.daddr.toNat))))))

def Udphdr.bytes (h : Udphdr) : List UInt8 :=
  leBytes 2 h.source.toNat ++ (leBytes 2 h.dest.toNat ++
    (leBytes 2 h.len.toNat ++ leBytes 2 h.check.toNat))

/-!
The casts from memory read the same layout back.
-/

def MacAddress.ofBytes (data : List UInt8) : MacAddress :=
  Vector.ofFn fun i => data.getD i.val 0

def leUInt16 (data : List UInt8) : UInt16 :=
  UInt16.ofNat (leNat (slice 0 2 data))

def leUInt32 (data : List UInt8) : UInt32 :=
  UInt32.ofNat (leNat (slice 0 4 data))

def EtherHeader.ofBytes (data : List UInt8) : EtherHeader where
  etherDhost := MacAddress.ofBytes data
  etherShost := MacAddress.ofBytes (data.drop 6)
  etherType := leUInt16 (data.drop 12)

def Iphdr.ofBytes (data : List UInt8) : Iphdr where
  ihl := BitVec.ofNat 4 (data.headD 0).toNat
  version := BitVec.ofNat 4 ((data.headD 0).toNat / 16)
  tos := (data.drop 1).headD 0
  totLen := leUInt16 (data.drop 2)
  id := leUInt16 (data.drop 4)
  fragOff := leUInt16 (data.drop 6)
  ttl := (data.drop 8).headD 0
  protocol := (data.drop 9).headD 0
  check := leUInt16 (data.drop 10)
  saddr := leUInt32 (data.drop 12)
  daddr := leUInt32 (data.drop 16)

def Udphdr.ofBytes (data : List UInt8) : Udphdr where
  source := leUInt16 data
  dest := leUInt16 (data.drop 2)
  len := leUInt16 (data.drop 4)
  check := leUInt16 (data.drop 6)

theorem MacAddress.ofBytes_append (mac : MacAddress) (rest : List UInt8) :
    MacAddress.ofBytes (mac.toList ++ rest) = mac := by
  apply Vector.ext
  intro i hi
  have hlen : i < mac.toList.length := by simpa using hi
  simp only [MacAddress.ofBytes, Vector.getElem_ofFn, List.getD_eq_getElem?_getD]
  rw [List.getElem?_append_left hlen, List.getElem?_eq_getElem hlen]
  simp

theorem leUInt16_append (x : UInt16) (rest : List UInt8) :
    leUInt16 (leBytes 2 x.toNat ++ rest) = x := by
  have hlt : x.toNat < 256 ^ 2 := x.toNat_lt
  rw [leUInt16, slice_append_here (leBytes_length 2 _), leNat_leBytes,
    Nat.mod_eq_of_lt hlt, UInt16.ofNat_toNat]

theorem leUInt32_append (x : UInt32) (rest : List UInt8) :
    leUInt32 (leBytes 4 x.toNat ++ rest) = x := by
  have hlt : x.toNat < 256 ^ 4 := x.toNat_lt
  rw [leUInt32, slice_append_here (leBytes_length 4 _), leNat_leBytes,
    Nat.mod_eq_of_lt hlt, UInt32.ofNat_toNat]

theorem EtherHeader.ofBytes_bytes (h : EtherHeader) (rest : List UInt8) :
    EtherHeader.ofBytes (h.bytes ++ rest) = h := by
  simp (disch := simp) [EtherHeader.ofBytes, EtherHeader.bytes,
    drop_append_right, MacAddress.ofBytes_append, leUInt16_append]

theorem Iphdr.ofBytes_bytes (h : Iphdr) (rest : List UInt8) :
    Iphdr.ofBytes (h.bytes ++ rest) = h := by
  have hlow : h.ihl.toNat < 16 := h.ihl.isLt
  have hhigh : h.version.toNat < 16 := h.version.isLt
  have hihl : BitVec.ofNat 4 ((h.ihl.toNat + 16 * h.version.toNat) % 256) =
      h.ihl := by
    apply BitVec.eq_of_toNat_eq
    rw [BitVec.toNat_ofNat]
    lia
  have hversion : BitVec.ofNat 4
      ((h.ihl.toNat + 16 * h.version.toNat) % 256 / 16) = h.version := by
    apply BitVec.eq_of_toNat_eq
    rw [BitVec.toNat_ofNat]
    lia
  simp (disch := simp) [Iphdr.ofBytes, Iphdr.bytes, drop_append_right,
    leUInt16_append, leUInt32_append, hihl, hversion]

theorem Udphdr.ofBytes_bytes (h : Udphdr) (rest : List UInt8) :
    Udphdr.ofBytes (h.bytes ++ rest) = h := by
  simp (disch := simp) [Udphdr.ofBytes, Udphdr.bytes, drop_append_right,
    leUInt16_append]

@[simp] theorem EtherHeader.bytes_length (h : EtherHeader) :
    h.bytes.length = 14 := by
  simp [EtherHeader.bytes]

@[simp] theorem Iphdr.bytes_length (h : Iphdr) : h.bytes.length = 20 := by
  simp [Iphdr.bytes]

@[simp] theorem Udphdr.bytes_length (h : Udphdr) : h.bytes.length = 8 := by
  simp [Udphdr.bytes]

/-!
## The complete UDP/IP header
-/

structure UDPHDR where
  eth : EtherHeader
  ip : Iphdr
  udp : Udphdr
  deriving DecidableEq

namespace UDPHDR

def bytes (h : UDPHDR) : List UInt8 :=
  h.eth.bytes ++ (h.ip.bytes ++ h.udp.bytes)

@[simp] theorem bytes_length (h : UDPHDR) : h.bytes.length = 42 := by
  simp [bytes]

def ofBytes (data : List UInt8) : UDPHDR where
  eth := EtherHeader.ofBytes data
  ip := Iphdr.ofBytes (data.drop 14)
  udp := Udphdr.ofBytes (data.drop 34)

theorem ofBytes_bytes (h : UDPHDR) (rest : List UInt8) :
    ofBytes (h.bytes ++ rest) = h := by
  simp (disch := simp) only [ofBytes, bytes, List.append_assoc,
    drop_append_right, EtherHeader.bytes_length, Iphdr.bytes_length,
    Nat.reduceSub, List.drop_zero, EtherHeader.ofBytes_bytes,
    Iphdr.ofBytes_bytes, Udphdr.ofBytes_bytes]

/--
The sums are computed in `size_t` and narrowed to the 16-bit argument of
`htons`.
-/
def setPayloadSize (h : UDPHDR) (dataLength : UInt32) : UDPHDR :=
  { h with
    ip := { h.ip with
      totLen := htons (UInt16.ofNat (20 + 8 + dataLength.toNat)) }
    udp := { h.udp with
      len := htons (UInt16.ofNat (8 + dataLength.toNat)) } }

/-!
The word `frag_off` holds three flags, `IP_MF` the lowest of them, and below them
the offset in units of eight bytes.
-/

/-- The masked word is returned as a `bool`: whether it is not zero. -/
def isFragment (h : UDPHDR) : Bool :=
  ntohs h.ip.fragOff &&& (0x1fff ||| 0x2000) != 0

def getFragmentOffsetInBytes (h : UDPHDR) : Nat :=
  (ntohs h.ip.fragOff &&& 0x1fff).toNat * 8

def isMoreFragments (h : UDPHDR) : Bool :=
  ntohs h.ip.fragOff &&& 0x2000 != 0

theorem isFragment_iff (h : UDPHDR) :
    h.isFragment = true <->
      h.isMoreFragments = true ∨ h.getFragmentOffsetInBytes ≠ 0 := by
  have hsplit : ntohs h.ip.fragOff &&& (0x1fff ||| 0x2000) =
      ntohs h.ip.fragOff &&& 0x1fff ||| ntohs h.ip.fragOff &&& 0x2000 :=
    UInt16.toBitVec_inj.mp BitVec.and_or_distrib_left
  have hoffset : h.getFragmentOffsetInBytes = 0 <->
      ntohs h.ip.fragOff &&& 0x1fff = 0 := by
    rw [getFragmentOffsetInBytes, Nat.mul_eq_zero, or_iff_left (by decide),
      ← UInt16.toNat_inj]
    rfl
  rw [isFragment, isMoreFragments, bne_iff_ne, bne_iff_ne, hsplit, ne_eq,
    UInt16.or_eq_zero_iff, ← hoffset, not_and_or]
  exact or_comm

theorem getFragmentOffsetInBytes_le (h : UDPHDR) :
    h.getFragmentOffsetInBytes ≤ 65528 := by
  have hmask : (ntohs h.ip.fragOff &&& 0x1fff).toNat ≤ 0x1fff := by
    rw [UInt16.toNat_and]
    exact Nat.and_le_right
  unfold getFragmentOffsetInBytes
  lia

end UDPHDR

/-!
## The complete ARP header

Offsets inside an `ARPHDR`: Ethernet 0, ARP 14, addresses 22, end 42.
-/

structure Arphdr where
  arHrd : UInt16
  arPro : UInt16
  arHln : UInt8
  arPln : UInt8
  arOp : UInt16
  deriving DecidableEq

structure ARPHDR where
  eth : EtherHeader
  arp : Arphdr
  sourceHardwAddr : MacAddress
  sourceIPAddr : UInt32
  targetHardwAddr : MacAddress
  targetIPAddr : UInt32
  deriving DecidableEq

def Arphdr.bytes (h : Arphdr) : List UInt8 :=
  leBytes 2 h.arHrd.toNat ++ (leBytes 2 h.arPro.toNat ++
    ([h.arHln, h.arPln] ++ leBytes 2 h.arOp.toNat))

@[simp] theorem Arphdr.bytes_length (h : Arphdr) : h.bytes.length = 8 := by
  simp [Arphdr.bytes]

def ARPHDR.bytes (h : ARPHDR) : List UInt8 :=
  h.eth.bytes ++ (h.arp.bytes ++ (h.sourceHardwAddr.toList ++
    (leBytes 4 h.sourceIPAddr.toNat ++ (h.targetHardwAddr.toList ++
    leBytes 4 h.targetIPAddr.toNat))))

@[simp] theorem ARPHDR.bytes_length (h : ARPHDR) : h.bytes.length = 42 := by
  simp [ARPHDR.bytes]

end Structs
end FarmNetworking
