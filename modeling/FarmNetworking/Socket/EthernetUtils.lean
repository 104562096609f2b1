import FarmNetworking.Structs.DataContainer

/-!
# Ethernet utilities

The address and checksum functions of `socket/EthernetUtils`.  A `char*` that may
be null is an `Option`; a `char*` that is only read is the list of bytes from the
pointed-to byte on.
-/

namespace FarmNetworking
namespace Socket
namespace EthernetUtils

open Foundation ByteString OnesComplement
open Structs

/-!
## Hardware addresses from strings

`scanHex2` is the conversion `%02X` of `sscanf`: skip white space, then read an
optionally signed hexadecimal number of at most two characters.  The prefix `0x`
uses up both of them, and the library converts it to zero.
-/

def isSpace (c : Char) : Bool :=
  c = ' ' || c = '\t' || c = '\n' || c = '\x0b' || c = '\x0c' || c = '\r'

def hexDigit? (c : Char) : Option Nat :=
  if '0' ≤ c ∧ c ≤ '9' then some (c.toNat - '0'.toNat)
  else if 'a' ≤ c ∧ c ≤ 'f' then some (c.toNat - 'a'.toNat + 10)
  else if 'A' ≤ c ∧ c ≤ 'F' then some (c.toNat - 'A'.toNat + 10)
  else none

/-- Read hexadecimal digits, at least one and at most `width` of them. -/
def scanDigits : Nat -> Nat -> List Char -> Option (Nat × List Char)
  | 0, _, _ => none
  | _ + 1, _, [] => none
  | width + 1, acc, c :: rest =>
      match hexDigit? c with
      | none => none
      | some d =>
          match scanDigits width (acc * 16 + d) rest with
          | none => some (acc * 16 + d, rest)
          | some r => some r

def scanHex2 (input : List Char) : Option (UInt32 × List Char) :=
  match input.dropWhile isSpace with
  | '+' :: rest =>
      (scanDigits 1 0 rest).map fun (n, rest) => (UInt32.ofNat n, rest)
  | '-' :: rest =>
      (scanDigits 1 0 rest).map fun (n, rest) => (0 - UInt32.ofNat n, rest)
  | '0' :: 'x' :: rest => some (0, rest)
  | '0' :: 'X' :: rest => some (0, rest)
  | rest =>
      (scanDigits 2 0 rest).map fun (n, rest) => (UInt32.ofNat n, rest)

/-- `n` conversions separated by the literal `:`; what follows is ignored. -/
def scanGroups : Nat -> List Char -> Option (List UInt32)
  | 0, _ => some []
  | 1, input => (scanHex2 input).map fun (value, _) => [value]
  | n + 2, input =>
      match scanHex2 input with
      | some (value, ':' :: rest) =>
          (scanGroups (n + 1) rest).map fun values => value :: values
      | _ => none

/-- `none` is the null pointer that is returned for an invalid format. -/
def stringToMAC (address : String) : Option MacAddress :=
  -- `address.data()` is read as a C string, up to the first NUL
  match scanGroups 6 (address.toList.takeWhile (· ≠ '\x00')) with
  | some [a, b, c, d, e, f] =>
      some #v[a.toUInt8, b.toUInt8, c.toUInt8, d.toUInt8, e.toUInt8, f.toUInt8]
  | _ => none

example : stringToMAC "00:1b:21:C0:ff:9" = some #v[0, 0x1b, 0x21, 0xc0, 0xff, 9] := by
  decide

/-!
## Generated headers
-/

/-- The group address is in network byte order: its first byte is the lowest. -/
def generateMulticastMac (multicastGroup : UInt32) : MacAddress :=
  let multicastIP := multicastGroup &&& 0xffff7f00
  let bytes := leBytes 4 multicastIP.toNat
  #v[0x01, 0x00, 0x5e, bytes.getD 1 0, bytes.getD 2 0, bytes.getD 3 0]

theorem byte_and (x mask shift : Nat) :
    UInt8.ofNat ((x &&& mask) / 2 ^ shift) =
      UInt8.ofNat (x / 2 ^ shift) &&& UInt8.ofNat (mask / 2 ^ shift) := by
  apply UInt8.toNat_inj.mp
  rw [UInt8.toNat_and, UInt8.toNat_ofNat', UInt8.toNat_ofNat',
    UInt8.toNat_ofNat', Nat.and_div_two_pow, Nat.and_mod_two_pow]

/-- The last 23 bits of the group address end up in the hardware address. -/
theorem generateMulticastMac_toList (group : UInt32) :
    (generateMulticastMac group).toList =
      [0x01, 0x00, 0x5e, UInt8.ofNat (group.toNat / 2 ^ 8) &&& 0x7f,
        UInt8.ofNat (group.toNat / 2 ^ 16),
        UInt8.ofNat (group.toNat / 2 ^ 24)] := by
  have hsecond := byte_and group.toNat 0xffff7f00 8
  have hthird := byte_and group.toNat 0xffff7f00 16
  have hfourth := byte_and group.toNat 0xffff7f00 24
  have hall : forall b : UInt8, b &&& 0xff = b := fun b => UInt8.and_neg_one
  change _ = _ &&& (0x7f : UInt8) at hsecond
  change _ = _ &&& (0xff : UInt8) at hthird
  change _ = _ &&& (0xff : UInt8) at hfourth
  rw [hall] at hthird hfourth
  rw [← hsecond, ← hthird, ← hfourth]
  simp only [generateMulticastMac, leBytes_succ, leBytes_zero,
    UInt32.toNat_and, List.getD_cons_succ, List.getD_cons_zero,
    Nat.div_div_eq_div_mul]
  rfl

/--
Fill a packet header.  The error value is the header at the moment of the crash
when the hardware address is a null pointer.
-/
def generateUDP (myMac : MacAddress) (myIP : UInt32) (hdr : UDPHDR)
    (dMacAddr : Option MacAddress) (dIP : UInt32) (sPort dPort : UInt16) :
    Except UDPHDR UDPHDR :=
  let hdr := { hdr with
    eth := { hdr.eth with etherType := htons 0x0800 }
    ip := { hdr.ip with protocol := 17 } }
  match dMacAddr with
  | none => .error hdr
  | some mac =>
      .ok
        { eth := { hdr.eth with etherDhost := mac, etherShost := myMac }
          ip := { hdr.ip with
            version := 4
            ihl := 5
            tos := 0
            id := 0
            fragOff := htons 0x4000
            ttl := 128
            saddr := myIP
            daddr := dIP }
          udp := { hdr.udp with
            dest := htons dPort
            source := htons sPort
            check := 0 } }

/-- Whatever the memory of the header held before, the packet is not a fragment. -/
theorem generateUDP_isFragment {myMac : MacAddress} {myIP dIP : UInt32}
    {hdr filled : UDPHDR} {dMacAddr : Option MacAddress} {sPort dPort : UInt16}
    (h : generateUDP myMac myIP hdr dMacAddr dIP sPort dPort = .ok filled) :
    filled.isFragment = false := by
  cases dMacAddr with
  | none => cases h
  | some mac =>
      cases h
      show (ntohs (htons 0x4000) &&& (0x1fff ||| 0x2000) != 0) = false
      rw [ntohs_htons]
      rfl

/-!
## Checksums

`generateUDPChecksum` reads the payload behind the header it is given, so the
memory that follows the header is an argument.  It clears the checksum field
before it sums; the result is the new header together with the checksum.
-/

def udpSum (f : ChecksumFunctions) (hdr : UDPHDR) (payload : List UInt8)
    (length : UInt32) : UInt32 :=
  f.generateChecksumUnwrapped hdr.udp.bytes 8
    (f.generateChecksumUnwrapped payload length.toNat
      (f.generateChecksumUnwrapped
        (leBytes 4 hdr.ip.saddr.toNat ++ leBytes 4 hdr.ip.daddr.toNat) 8
        (17 + (ntohs hdr.udp.len).toUInt32)))

def generateUDPChecksum (f : ChecksumFunctions) (hdr : UDPHDR)
    (behind : List UInt8) (payloadLength : UInt32) : UDPHDR × UInt16 :=
  let hdr := { hdr with udp := { hdr.udp with check := 0 } }
  (hdr, f.wrapsum (udpSum f hdr behind payloadLength))

def checkUDP (f : ChecksumFunctions) (hdr : UDPHDR) (udpPayload : List UInt8)
    (length : UInt32) : Bool :=
  0xFFFF == udpSum f hdr udpPayload length

/-- The native 16-bit word that starts at the pointed-to byte. -/
def nativeWord (data : List UInt8) : UInt32 :=
  UInt32.ofNat ((data.getD 0 0).toNat + (data.getD 1 0).toNat * 256)

def sumWords : Nat -> List UInt8 -> UInt32 -> UInt32
  | 0, _, sum => sum
  | len + 1, data, sum => sumWords len (data.drop 2) (sum + nativeWord data)

def checkData (data : List UInt8) (len : UInt16) : Bool :=
  let words := if len &&& 1 == 0 then len >>> 1 else (len >>> 1) + 1
  let sum := sumWords words.toNat data 0
  let sum := (sum >>> 16) + (sum &&& 0xffff)
  let sum := sum + (sum >>> 16)
  sum == 0xFFFF

end EthernetUtils
end Socket
end FarmNetworking
