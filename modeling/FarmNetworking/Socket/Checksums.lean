import FarmNetworking.Socket.EthernetUtils

/-!
# Generated checksums and their checks

The generator and the checker of a checksum are separate code.  Both are
reduced here to a sum of 16-bit words in exact arithmetic, where one's-complement
facts show that they agree.
-/

namespace FarmNetworking
namespace Socket
namespace EthernetUtils

open Foundation ByteString OnesComplement
open Structs

/-!
## Summing native words

`checkData` adds in 32 bits.  The sum of at most 65535 words of 16 bits does not
leave this range, so the folded accumulator is the folded exact sum.
-/

theorem leWords_drop_two (data : List UInt8) {n : Nat}
    (h : 2 * (n + 1) ≤ data.length) :
    leWords (data.take (2 * (n + 1))) =
      (nativeWord data).toNat :: leWords ((data.drop 2).take (2 * n)) := by
  cases data with
  | nil => simp at h
  | cons a data =>
      cases data with
      | nil =>
          simp only [List.length_cons, List.length_nil] at h
          lia
      | cons b rest =>
          have ha : a.toNat < 256 := a.toNat_lt
          have hb : b.toNat < 256 := b.toNat_lt
          have hword : (nativeWord (a :: b :: rest)).toNat =
              a.toNat + b.toNat * 256 := by
            change (UInt32.ofNat (a.toNat + b.toNat * 256)).toNat = _
            rw [UInt32.toNat_ofNat']
            exact Nat.mod_eq_of_lt (by lia)
          rw [hword, Nat.mul_succ]
          rfl

theorem sumWords_toNat (n : Nat) (data : List UInt8) (sum : UInt32)
    (h : 2 * n ≤ data.length) :
    (sumWords n data sum).toNat =
      (sum.toNat + (leWords (data.take (2 * n))).sum) % 4294967296 := by
  induction n generalizing data sum with
  | zero =>
      have hsum : sum.toNat < 4294967296 := sum.toNat_lt
      rw [sumWords, Nat.mul_zero, List.take_zero, leWords, List.sum_nil,
        Nat.add_zero, Nat.mod_eq_of_lt hsum]
  | succ n ih =>
      have hrest : 2 * n ≤ (data.drop 2).length := by
        rw [List.length_drop]
        lia
      rw [sumWords, ih _ _ hrest, leWords_drop_two data h, List.sum_cons,
        UInt32.toNat_add, ← Nat.add_assoc]
      exact Nat.mod_add_mod _ _ _

/-- The fold of `checkData` on its 32-bit accumulator. -/
def foldWord (sum : UInt32) : UInt32 :=
  let sum := (sum >>> 16) + (sum &&& 0xffff)
  sum + (sum >>> 16)

theorem foldWord_toNat (sum : UInt32) : (foldWord sum).toNat = fold sum.toNat := by
  have hsum : sum.toNat < 4294967296 := sum.toNat_lt
  have hshift : forall x : UInt32, (x >>> 16).toNat = x.toNat / 65536 :=
    fun x => Nat.shiftRight_eq_div_pow x.toNat 16
  have hmask : (sum &&& 0xffff).toNat = sum.toNat % 65536 :=
    Nat.and_two_pow_sub_one_eq_mod sum.toNat 16
  have honce : ((sum >>> 16) + (sum &&& 0xffff)).toNat =
      sum.toNat / 65536 + sum.toNat % 65536 := by
    rw [UInt32.toNat_add, hshift, hmask]
    exact Nat.mod_eq_of_lt (by lia)
  simp only [foldWord, fold]
  rw [UInt32.toNat_add, hshift, honce]
  exact Nat.mod_eq_of_lt (by lia)

/-- `checkData` reads whole words, so it rounds an odd length up. -/
def wordsRead (len : UInt16) : Nat :=
  (len.toNat + 1) / 2

theorem checkData_sumWords (data : List UInt8) (len : UInt16) :
    checkData data len = (foldWord (sumWords (wordsRead len) data 0) == 0xFFFF) := by
  have hlt : len.toNat < 65536 := len.toNat_lt
  have hlow : (len &&& 1).toNat = len.toNat % 2 :=
    Nat.and_two_pow_sub_one_eq_mod len.toNat 1
  have hhalf : (len >>> 1).toNat = len.toNat / 2 :=
    Nat.shiftRight_eq_div_pow len.toNat 1
  have hwords : (if len &&& 1 == 0 then len >>> 1 else (len >>> 1) + 1).toNat =
      wordsRead len := by
    rcases Nat.mod_two_eq_zero_or_one len.toNat with heven | hodd
    · have htest : (len &&& 1 == 0) = true := by
        rw [beq_iff_eq]
        exact UInt16.toNat_inj.mp (hlow.trans heven)
      rw [htest, if_pos rfl, hhalf, wordsRead]
      lia
    · have htest : (len &&& 1 == 0) = false := by
        rw [beq_eq_false_iff_ne]
        intro h
        rw [h, hodd] at hlow
        cases hlow
      rw [htest, if_neg (by decide), UInt16.toNat_add, hhalf, wordsRead]
      change (len.toNat / 2 + 1) % 65536 = _
      lia
  simp only [checkData, hwords]
  rfl

theorem checkData_eq {data : List UInt8} {len : UInt16}
    (hlen : 2 * wordsRead len ≤ data.length) :
    checkData data len =
      decide (fold (leWords (data.take (2 * wordsRead len))).sum = 65535) := by
  have hlt : len.toNat < 65536 := len.toNat_lt
  have hread : wordsRead len ≤ 32768 := by
    unfold wordsRead
    lia
  have hbound := leWords_sum_le (data.take (2 * wordsRead len))
  rw [List.length_take_of_le hlen] at hbound
  have hsum : (sumWords (wordsRead len) data 0).toNat =
      (leWords (data.take (2 * wordsRead len))).sum := by
    rw [sumWords_toNat _ _ _ hlen]
    change (0 + _) % _ = _
    rw [Nat.zero_add]
    exact Nat.mod_eq_of_lt (by lia)
  rw [checkData_sumWords, Bool.beq_eq_decide_eq, ← hsum, ← foldWord_toNat]
  exact decide_eq_decide.mpr UInt32.toNat_inj.symm

theorem wordsRead_even {len : UInt16} (heven : len.toNat % 2 = 0) :
    2 * wordsRead len = len.toNat := by
  unfold wordsRead
  lia

theorem checkData_even {data : List UInt8} {len : UInt16}
    (heven : len.toNat % 2 = 0) (hlen : len.toNat ≤ data.length) :
    checkData data len =
      decide (fold (leWords (data.take len.toNat)).sum = 65535) := by
  rw [← wordsRead_even heven] at hlen ⊢
  exact checkData_eq hlen

/-!
## The IP header

A checksum field is a word of its own.  Storing a checksum where a zero was
summed therefore adds just this word to the sum.
-/

theorem Iphdr_bytes_check (ip : Iphdr) :
    exists front back : List UInt8,
      front.length = 10 ∧ back.length = 8 ∧
        forall check : UInt16,
          { ip with check := check }.bytes =
            front ++ (leBytes 2 check.toNat ++ back) := by
  refine ⟨[UInt8.ofNat (ip.ihl.toNat + 16 * ip.version.toNat), ip.tos] ++
      (leBytes 2 ip.totLen.toNat ++ (leBytes 2 ip.id.toNat ++
        (leBytes 2 ip.fragOff.toNat ++ [ip.ttl, ip.protocol]))),
    leBytes 4 ip.saddr.toNat ++ leBytes 4 ip.daddr.toNat, ?_, ?_, ?_⟩
  · simp
  · simp
  · intro check
    simp [Iphdr.bytes]

/-- `ip.check` as the send path computes it, with the field cleared before. -/
def storeIPChecksum (f : ChecksumFunctions) (ip : Iphdr) : Iphdr :=
  let ip := { ip with check := 0 }
  { ip with check := f.generateChecksum ip.bytes 20 0 }

theorem storeIPChecksum_checkData {f : ChecksumFunctions} (hf : f.Documented)
    (ip : Iphdr) (behind : List UInt8) :
    checkData ((storeIPChecksum f ip).bytes ++ behind) 20 = true := by
  rcases Iphdr_bytes_check ip with ⟨front, back, hfront, hback, hbytes⟩
  have hwords : forall check : UInt16,
      leWords { ip with check := check }.bytes =
        leWords front ++ check.toNat :: leWords back := by
    intro check
    have hcheck : check.toNat % 65536 = check.toNat :=
      Nat.mod_eq_of_lt check.toNat_lt
    rw [hbytes, leWords_append (by rw [hfront]),
      leWords_append (by rw [leBytes_length]), leWords_leBytes, hcheck]
    rfl
  have hzero : (leWords { ip with check := 0 }.bytes).sum =
      (leWords front).sum + (leWords back).sum := by
    rw [hwords, List.sum_append, List.sum_cons]
    exact congrArg _ (Nat.zero_add _)
  have hbound := leWords_sum_le { ip with check := 0 }.bytes
  rw [Iphdr.bytes_length] at hbound
  have hcheck := hf.generateChecksum_eq { ip with check := 0 }.bytes 20 0
    (by rw [Iphdr.bytes_length]) (by decide) (by decide)
  rw [List.take_of_length_le (by rw [Iphdr.bytes_length])] at hcheck
  change _ = 65535 - fold (0 + _) % 65536 at hcheck
  rw [Nat.zero_add] at hcheck
  rw [checkData_even (by decide) (by simp), decide_eq_true_iff]
  change fold (leWords (((storeIPChecksum f ip).bytes ++ behind).take 20)).sum = _
  rw [List.take_left' (Iphdr.bytes_length _)]
  have hsum : (leWords (storeIPChecksum f ip).bytes).sum =
      (leWords { ip with check := 0 }.bytes).sum +
        (f.generateChecksum { ip with check := 0 }.bytes 20 0).toNat := by
    rw [storeIPChecksum, hzero]
    change (leWords { ip with check := f.generateChecksum _ 20 0 }.bytes).sum = _
    rw [hwords, List.sum_append, List.sum_cons]
    lia
  rw [hsum, hcheck]
  exact fold_complement (by lia)

/-!
## The UDP header and its payload
-/

theorem Udphdr_bytes_check (udp : Udphdr) :
    exists front : List UInt8,
      front.length = 6 ∧
        forall check : UInt16,
          { udp with check := check }.bytes =
            front ++ leBytes 2 check.toNat := by
  refine ⟨leBytes 2 udp.source.toNat ++ (leBytes 2 udp.dest.toNat ++
    leBytes 2 udp.len.toNat), ?_, ?_⟩
  · simp
  · intro check
    simp [Udphdr.bytes]

def leadingWords (hdr : UDPHDR) (payload : List UInt8) : List Nat :=
  beWords (leBytes 4 hdr.ip.saddr.toNat ++ leBytes 4 hdr.ip.daddr.toNat) ++
    beWords payload

theorem leadingWords_le (hdr : UDPHDR) (payload : List UInt8) :
    forall w, w ∈ leadingWords hdr payload -> w ≤ 65535 := by
  intro w hw
  rcases List.mem_append.mp hw with haddresses | hpayload
  · exact beWords_le _ w haddresses
  · exact beWords_le _ w hpayload

theorem summedWords_le (hdr : UDPHDR) (payload : List UInt8) :
    forall w, w ∈ leadingWords hdr payload ++ beWords hdr.udp.bytes ->
      w ≤ 65535 := by
  intro w hw
  rcases List.mem_append.mp hw with hleading | hheader
  · exact leadingWords_le hdr payload w hleading
  · exact beWords_le _ w hheader

theorem udpSum_toNat {f : ChecksumFunctions} (hf : f.Documented) (hdr : UDPHDR)
    (payload behind : List UInt8) {length : UInt32}
    (hlength : length.toNat = payload.length) :
    (udpSum f hdr (payload ++ behind) length).toNat =
      endAroundSum (17 + (ntohs hdr.udp.len).toNat)
        (leadingWords hdr payload ++ beWords hdr.udp.bytes) := by
  have hlen : (ntohs hdr.udp.len).toNat < 65536 := (ntohs hdr.udp.len).toNat_lt
  have hseed : (17 + (ntohs hdr.udp.len).toUInt32).toNat =
      17 + (ntohs hdr.udp.len).toNat := by
    rw [UInt32.toNat_add, UInt16.toNat_toUInt32]
    exact Nat.mod_eq_of_lt (by change 17 + _ < 4294967296; lia)
  have hle : forall words : List Nat, (forall w, w ∈ words -> w ≤ 65535) ->
      endAroundSum (17 + (ntohs hdr.udp.len).toNat) words ≤ 2 * 65535 :=
    fun words hwords => endAroundSum_le (by decide) (by lia) hwords
  -- the three calls are nested: each sum is the seed of the next
  generalize haddr :
    leBytes 4 hdr.ip.saddr.toNat ++ leBytes 4 hdr.ip.daddr.toNat = addresses
  have haddrlen : addresses.length = 8 := by
    rw [← haddr, List.length_append, leBytes_length, leBytes_length]
  have haddresses := hf.generateChecksumUnwrapped_eq addresses 8
    (17 + (ntohs hdr.udp.len).toUInt32) (by rw [haddrlen]) (by lia)
  rw [hseed, List.take_of_length_le (by rw [haddrlen])] at haddresses
  have hpayload := hf.generateChecksumUnwrapped_eq (payload ++ behind)
    length.toNat
    (f.generateChecksumUnwrapped addresses 8
      (17 + (ntohs hdr.udp.len).toUInt32))
    (by rw [hlength, List.length_append]; lia)
    (by rw [haddresses]; exact hle _ (beWords_le _))
  rw [haddresses, hlength, List.take_left, ← endAroundSum_append] at hpayload
  have hwords : leadingWords hdr payload = beWords addresses ++ beWords payload := by
    rw [leadingWords, haddr]
  have hheader := hf.generateChecksumUnwrapped_eq hdr.udp.bytes 8
    (f.generateChecksumUnwrapped (payload ++ behind) payload.length
      (f.generateChecksumUnwrapped addresses 8
        (17 + (ntohs hdr.udp.len).toUInt32)))
    (by rw [Udphdr.bytes_length])
    (by
      rw [hpayload, ← hwords]
      exact hle _ (leadingWords_le hdr payload))
  rw [hpayload, List.take_of_length_le (by rw [Udphdr.bytes_length]),
    ← endAroundSum_append, ← hwords] at hheader
  rw [udpSum, haddr, hlength]
  exact hheader

theorem checkUDP_eq_true_iff (f : ChecksumFunctions) (hdr : UDPHDR)
    (payload : List UInt8) (length : UInt32) :
    checkUDP f hdr payload length = true <->
      (udpSum f hdr payload length).toNat = 65535 := by
  rw [checkUDP, beq_iff_eq, ← UInt32.toNat_inj, eq_comm]
  rfl

theorem udpSum_check {f : ChecksumFunctions} (hf : f.Documented) (hdr : UDPHDR)
    (payload : List UInt8) {length : UInt32}
    (hlength : length.toNat = payload.length) :
    exists words : List Nat,
      (forall w, w ∈ words -> w ≤ 65535) ∧
        forall (check : UInt16) (behind : List UInt8),
          (udpSum f { hdr with udp := { hdr.udp with check := htons check } }
            (payload ++ behind) length).toNat =
            endAroundSum (17 + (ntohs hdr.udp.len).toNat)
              (words ++ [check.toNat]) := by
  rcases Udphdr_bytes_check hdr.udp with ⟨front, hfront, hbytes⟩
  refine ⟨leadingWords hdr payload ++ beWords front, ?_, ?_⟩
  · intro w hw
    rcases List.mem_append.mp hw with hleading | hwfront
    · exact leadingWords_le hdr payload w hleading
    · exact beWords_le front w hwfront
  · intro check behind
    have hcheck : check.toNat % 65536 = check.toNat :=
      Nat.mod_eq_of_lt check.toNat_lt
    have hsum := udpSum_toNat hf
      { hdr with udp := { hdr.udp with check := htons check } }
      payload behind hlength
    rw [hbytes, leBytes_htons, beWords_append (by rw [hfront]),
      beWords_beBytes, hcheck, ← List.append_assoc] at hsum
    exact hsum

/-- `udp.check` as the send path computes it. -/
def storeUDPChecksum (f : ChecksumFunctions) (hdr : UDPHDR)
    (behind : List UInt8) (payloadLength : UInt32) : UDPHDR :=
  let (hdr, check) := generateUDPChecksum f hdr behind payloadLength
  { hdr with udp := { hdr.udp with check := check } }

/--
The payload may be followed by any memory, and the checker may see a copy of it
that is followed by something else.
-/
theorem storeUDPChecksum_checkUDP {f : ChecksumFunctions} (hf : f.Documented)
    (hdr : UDPHDR) (payload behind behind' : List UInt8) {length : UInt32}
    (hlength : length.toNat = payload.length)
    (hlen : (ntohs hdr.udp.len).toNat = 8 + payload.length)
    (hsize : 28 + payload.length ≤ 65535) :
    checkUDP f (storeUDPChecksum f hdr (payload ++ behind) length)
      (payload ++ behind') length = true := by
  rcases udpSum_check hf hdr payload hlength with
    ⟨words, hwords, hsum⟩
  have hzero := hsum 0 behind
  change (udpSum f { hdr with udp := { hdr.udp with check := 0 } } _ _).toNat =
    endAroundSum _ (words ++ [0]) at hzero
  have hbound : endAroundSum (17 + (ntohs hdr.udp.len).toNat) (words ++ [0]) ≤
      65535 := by
    apply endAroundSum_le (Nat.le_refl _) (by lia)
    intro w hw
    rcases List.mem_append.mp hw with hwords' | hlast
    · exact hwords w hwords'
    · rw [List.mem_singleton.mp hlast]
      exact Nat.zero_le _
  have hcheck := hf.wrapsum_eq (udpSum f
    { hdr with udp := { hdr.udp with check := 0 } } (payload ++ behind) length)
  rw [hzero, Nat.mod_eq_of_lt (by lia)] at hcheck
  have hlast : (UInt16.ofNat (65535 -
      endAroundSum (17 + (ntohs hdr.udp.len).toNat) (words ++ [0]))).toNat =
      65535 - endAroundSum (17 + (ntohs hdr.udp.len).toNat) (words ++ [0]) := by
    rw [UInt16.toNat_ofNat']
    exact Nat.mod_eq_of_lt (by lia)
  have htotal := hsum (UInt16.ofNat (65535 -
    endAroundSum (17 + (ntohs hdr.udp.len).toNat) (words ++ [0]))) behind'
  rw [hlast, ← hcheck, endAroundSum_complement (by lia) (by lia) hwords
    (by simp)] at htotal
  exact (checkUDP_eq_true_iff f _ _ _).mpr htotal

end EthernetUtils
end Socket
end FarmNetworking
