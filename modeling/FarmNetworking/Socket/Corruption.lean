import FarmNetworking.Socket.Checksums

/-!
# Corrupted packets

`checkUDP` accepts a packet exactly when a sum over the covered bytes is
divisible by 65535.  The length field enters this sum twice, once through the
seed and once with the UDP header.
-/

namespace FarmNetworking
namespace Socket
namespace EthernetUtils

open Foundation ByteString OnesComplement
open Structs

/-!
## What the check covers
-/

/-- Both addresses, the UDP header and the payload, each on a word boundary. -/
def covered (hdr : UDPHDR) (payload : List UInt8) : List UInt8 :=
  leBytes 4 hdr.ip.saddr.toNat ++ (leBytes 4 hdr.ip.daddr.toNat ++
    (hdr.udp.bytes ++ payload))

theorem covered_length (hdr : UDPHDR) (payload : List UInt8) :
    (covered hdr payload).length = 16 + payload.length := by
  simp only [covered, List.length_append, leBytes_length, Udphdr.bytes_length]
  lia

theorem covered_len (hdr : UDPHDR) (payload : List UInt8) :
    (beWords (covered hdr payload)).getD 6 0 = (ntohs hdr.udp.len).toNat := by
  have hlen : hdr.udp.len = htons (ntohs hdr.udp.len) := by
    rw [ntohs]
    exact (ntohs_htons hdr.udp.len).symm
  have hlt : (ntohs hdr.udp.len).toNat < 65536 := (ntohs hdr.udp.len).toNat_lt
  rw [covered, Udphdr.bytes]
  simp only [List.append_assoc]
  rw [hlen, leBytes_htons, beWords_append (by simp), beWords_append (by simp),
    beWords_append (by simp), beWords_append (by simp),
    beWords_append (by simp), beWords_beBytes, Nat.mod_eq_of_lt hlt, ← hlen]
  rfl

/-- The three sums add the words of the covered bytes in another order. -/
theorem covered_sum (hdr : UDPHDR) (payload : List UInt8) :
    (leadingWords hdr payload ++ beWords hdr.udp.bytes).sum =
      (beWords (covered hdr payload)).sum := by
  rw [covered, leadingWords, beWords_append (by simp), beWords_append (by simp),
    beWords_append (by simp), beWords_append (by simp)]
  simp only [List.sum_append]
  lia

theorem checkUDP_iff {f : ChecksumFunctions} (hf : f.Documented) (hdr : UDPHDR)
    (payload behind : List UInt8) {length : UInt32}
    (hlength : length.toNat = payload.length) :
    checkUDP f hdr (payload ++ behind) length = true <->
      65535 ∣ 17 + (beWords (covered hdr payload)).getD 6 0 +
        (beWords (covered hdr payload)).sum := by
  have hlen : (ntohs hdr.udp.len).toNat < 65536 := (ntohs hdr.udp.len).toNat_lt
  have hsum := udpSum_toNat hf hdr payload behind hlength
  rw [covered_len, ← covered_sum, checkUDP_eq_true_iff, hsum,
    endAroundSum_eq_iff (by lia) (by lia) (summedWords_le hdr payload)]

/-!
## One corrupted word

Every word of the addresses, of the UDP header and of the payload lies on a word
boundary of the covered bytes, and so does a last odd byte of the payload.
-/

theorem covered_saddr_replaced (hdr : UDPHDR) (payload : List UInt8)
    {saddr : UInt32}
    (h : WordReplaced (leBytes 4 hdr.ip.saddr.toNat) (leBytes 4 saddr.toNat)) :
    WordReplaced (covered hdr payload)
      (covered { hdr with ip := { hdr.ip with saddr := saddr } } payload) := by
  apply h.append
  rw [leBytes_length]

theorem covered_daddr_replaced (hdr : UDPHDR) (payload : List UInt8)
    {daddr : UInt32}
    (h : WordReplaced (leBytes 4 hdr.ip.daddr.toNat) (leBytes 4 daddr.toNat)) :
    WordReplaced (covered hdr payload)
      (covered { hdr with ip := { hdr.ip with daddr := daddr } } payload) := by
  apply WordReplaced.prepend _ (by rw [leBytes_length])
  apply h.append
  rw [leBytes_length]

theorem covered_udp_replaced (hdr : UDPHDR) (payload : List UInt8)
    {udp : Udphdr} (h : WordReplaced hdr.udp.bytes udp.bytes) :
    WordReplaced (covered hdr payload) (covered { hdr with udp := udp } payload) := by
  apply WordReplaced.prepend _ (by rw [leBytes_length])
  apply WordReplaced.prepend _ (by rw [leBytes_length])
  apply h.append
  rw [Udphdr.bytes_length]

theorem covered_payload_replaced (hdr : UDPHDR) {payload payload' : List UInt8}
    (h : WordReplaced payload payload') :
    WordReplaced (covered hdr payload) (covered hdr payload') := by
  apply WordReplaced.prepend _ (by rw [leBytes_length])
  apply WordReplaced.prepend _ (by rw [leBytes_length])
  apply h.prepend
  rw [Udphdr.bytes_length]

theorem Udphdr_len_replaced (udp : Udphdr) {len len' : UInt16}
    (h : Distinguished len.toNat len'.toNat) :
    WordReplaced { udp with len := htons len }.bytes
      { udp with len := htons len' }.bytes := by
  apply WordReplaced.prepend _ (by rw [leBytes_length])
  apply WordReplaced.prepend _ (by rw [leBytes_length])
  rw [leBytes_htons, leBytes_htons]
  apply WordReplaced.append
    (wordReplaced_beBytes len.toNat_lt len'.toNat_lt h)
  rw [beBytes_length]

/--
A packet that differs from an accepted one in one covered word is rejected.
Nothing is said about the memory behind the payload.
-/
theorem checkUDP_detects {f : ChecksumFunctions} (hf : f.Documented)
    {hdr hdr' : UDPHDR} {payload payload' : List UInt8} {length : UInt32}
    (hlength : length.toNat = payload.length)
    (hreplaced : WordReplaced (covered hdr payload) (covered hdr' payload'))
    (behind behind' : List UInt8)
    (haccept : checkUDP f hdr (payload ++ behind) length = true) :
    checkUDP f hdr' (payload' ++ behind') length = false := by
  have hlength' : length.toNat = payload'.length := by
    have hcovered := hreplaced.length_eq
    rw [covered_length, covered_length] at hcovered
    lia
  have hold := (checkUDP_iff hf hdr payload behind hlength).mp haccept
  rw [Bool.eq_false_iff]
  intro hnew
  exact hreplaced.not_dvd hold
    ((checkUDP_iff hf hdr' payload' behind' hlength').mp hnew)

def bareHDR (len check : UInt16) : UDPHDR where
  eth := EtherHeader.ofBytes []
  ip := Iphdr.ofBytes []
  udp := { source := 0, dest := 0, len := htons len, check := htons check }

/--
The sum starts above 65535 here and the payload has an odd length.  The length,
an address and the payload are corrupted in turn.
-/
theorem checkUDP_detects_bare :
    checkUDP ChecksumFunctions.reference (bareHDR 65527 63742) [7] 1 = true ∧
      checkUDP ChecksumFunctions.reference (bareHDR 65526 63742) [7] 1 = false ∧
      checkUDP ChecksumFunctions.reference
        { bareHDR 65527 63742 with
          ip := { (bareHDR 65527 63742).ip with saddr := 0x00010000 } } [7] 1 =
        false ∧
      checkUDP ChecksumFunctions.reference (bareHDR 65527 63742) [8] 1 =
        false := by
  have haccept : checkUDP ChecksumFunctions.reference (bareHDR 65527 63742)
      ([7] ++ []) 1 = true := by decide
  have hlen : WordReplaced (covered (bareHDR 65527 63742) [7])
      (covered (bareHDR 65526 63742) [7]) := by
    apply covered_udp_replaced
    exact Udphdr_len_replaced (bareHDR 0 63742).udp (by decide)
  have hsaddr : WordReplaced (covered (bareHDR 65527 63742) [7])
      (covered { bareHDR 65527 63742 with
        ip := { (bareHDR 65527 63742).ip with saddr := 0x00010000 } } [7]) := by
    apply covered_saddr_replaced
    exact @WordReplaced.word [0, 0] [] 0 0 1 0 rfl (by decide)
  have hpayload : WordReplaced (covered (bareHDR 65527 63742) [7])
      (covered (bareHDR 65527 63742) [8]) := by
    apply covered_payload_replaced
    exact @WordReplaced.last [] 7 8 rfl (by decide)
  refine ⟨haccept, ?_, ?_, ?_⟩
  · exact checkUDP_detects ChecksumFunctions.reference_documented
      rfl hlen [] [] haccept
  · exact checkUDP_detects ChecksumFunctions.reference_documented
      rfl hsaddr [] [] haccept
  · exact checkUDP_detects ChecksumFunctions.reference_documented
      rfl hpayload [] [] haccept

end EthernetUtils
end Socket
end FarmNetworking
