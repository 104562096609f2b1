import FarmNetworking.Socket.Checksums

/-!
# What `checkData` decides

On an even length `checkData` decides whether the one's-complement sum of the
words is 65535.  On an odd length it reads one byte behind the buffer, and this
byte is the high half of the last word.
-/

namespace FarmNetworking
namespace Socket
namespace EthernetUtils

open Foundation ByteString OnesComplement

/-!
## Even lengths
-/

theorem leWords_sum_le_fold {bytes : List UInt8} (h : bytes.length ≤ 65536) :
    (leWords bytes).sum ≤ 65535 * 65535 := by
  have hbound := leWords_sum_le bytes
  lia

/-- The sum is at most 32767 words of 16 bits, so the fold loses nothing. -/
theorem checkData_iff {data : List UInt8} {len : UInt16}
    (heven : len.toNat % 2 = 0) (hlen : len.toNat ≤ data.length) :
    checkData data len = true <->
      0 < (leWords (data.take len.toNat)).sum ∧
        65535 ∣ (leWords (data.take len.toNat)).sum := by
  have hlt : len.toNat < 65536 := len.toNat_lt
  have hbound : (leWords (data.take len.toNat)).sum ≤ 65535 * 65535 := by
    apply leWords_sum_le_fold
    rw [List.length_take_of_le hlen]
    lia
  rw [checkData_even heven hlen, decide_eq_true_iff, fold_eq_iff hbound]

theorem checkData_iff_two_words :
    checkData [0xFE, 0xFF, 1, 0, 7] 4 = true <->
      0 < (leWords [0xFE, 0xFF, 1, 0]).sum ∧
        65535 ∣ (leWords [0xFE, 0xFF, 1, 0]).sum :=
  checkData_iff (by decide) (by decide)

/-!
## Odd lengths
-/

theorem wordsRead_odd {len : UInt16} (hodd : len.toNat % 2 = 1) :
    2 * wordsRead len = len.toNat + 1 := by
  unfold wordsRead
  lia

/-- The byte behind an odd buffer is the high half of the last word. -/
theorem leWords_snoc_sum {data : List UInt8} (hodd : data.length % 2 = 1)
    (next : UInt8) :
    (leWords (data ++ [next])).sum = (leWords data).sum + 256 * next.toNat := by
  induction data using leWords.induct with
  | case1 => simp at hodd
  | case2 a =>
      simp only [List.cons_append, List.nil_append, leWords, List.sum_cons,
        List.sum_nil]
      lia
  | case3 a b rest ih =>
      have hrest : rest.length % 2 = 1 := by
        simp only [List.length_cons] at hodd
        lia
      simp only [List.cons_append, leWords, List.sum_cons, ih hrest]
      lia

theorem checkData_odd {data : List UInt8} {len : UInt16}
    (hlen : data.length = len.toNat) (hodd : len.toNat % 2 = 1) (next : UInt8)
    (behind : List UInt8) :
    checkData (data ++ next :: behind) len = true <->
      0 < (leWords data).sum + 256 * next.toNat ∧
        65535 ∣ (leWords data).sum + 256 * next.toNat := by
  have hlt : len.toNat < 65536 := len.toNat_lt
  have hread := wordsRead_odd hodd
  have hsnoc : (data ++ [next]).length = len.toNat + 1 := by
    rw [List.length_append, hlen, List.length_singleton]
  have hsplit : data ++ next :: behind = data ++ [next] ++ behind := by simp
  have htake : (data ++ next :: behind).take (2 * wordsRead len) =
      data ++ [next] := by
    rw [hread, hsplit, ← hsnoc, List.take_left]
  have hbound : (leWords (data ++ [next])).sum ≤ 65535 * 65535 := by
    apply leWords_sum_le_fold
    rw [hsnoc]
    lia
  rw [checkData_eq, htake, decide_eq_true_iff, fold_eq_iff hbound,
    leWords_snoc_sum (by rw [hlen, hodd])]
  rw [hread, hsplit, List.length_append, hsnoc]
  lia

/-!
## Bytes behind the buffer
-/

/--
The result is the same in all memories that hold the buffer, and it is the one
for the buffer with an odd last byte padded by zero.
-/
structure LooksOnlyAt (data : List UInt8) (len : UInt16) : Prop where
  same : forall (next next' : UInt8) (behind behind' : List UInt8),
    checkData (data ++ next :: behind) len =
      checkData (data ++ next' :: behind') len
  padded : forall (next : UInt8) (behind : List UInt8),
    checkData (data ++ next :: behind) len = true <->
      0 < (leWords data).sum ∧ 65535 ∣ (leWords data).sum

theorem looksOnlyAt_even {data : List UInt8} {len : UInt16}
    (hlen : data.length = len.toNat) (heven : len.toNat % 2 = 0) :
    LooksOnlyAt data len := by
  have hpadded : forall (next : UInt8) (behind : List UInt8),
      checkData (data ++ next :: behind) len = true <->
        0 < (leWords data).sum ∧ 65535 ∣ (leWords data).sum := by
    intro next behind
    rw [checkData_iff heven (by rw [List.length_append, hlen]; lia), ← hlen,
      List.take_left]
  constructor
  · intro next next' behind behind'
    rw [Bool.eq_iff_iff, hpadded, hpadded]
  · exact hpadded

theorem completed_eq {sum byte : Nat} (hbyte : byte < 256)
    (hmod : sum % 65535 ≠ 0) (h : 65535 ∣ sum + 256 * byte) :
    sum % 65535 + 256 * byte = 65535 := by
  have hclass : 65535 ∣ sum % 65535 + 256 * byte := by
    rw [Nat.dvd_iff_mod_eq_zero, Nat.mod_add_mod]
    exact Nat.mod_eq_zero_of_dvd h
  have hlt : sum % 65535 < 65535 := Nat.mod_lt _ (by decide)
  rcases hclass with ⟨q, hq⟩
  have hone : q = 1 := by lia
  rw [hq, hone]

theorem completes_iff (sum : Nat) :
    (forall next : UInt8,
      (0 < sum + 256 * next.toNat ∧ 65535 ∣ sum + 256 * next.toNat) <->
        0 < sum ∧ 65535 ∣ sum) <->
      sum = 0 ∨ sum % 65535 ≠ 0 ∧ sum % 65535 % 256 ≠ 255 := by
  constructor
  · intro h
    rcases Nat.eq_zero_or_pos sum with hzero | hpos
    · exact Or.inl hzero
    · right
      have hone := h 1
      change (0 < sum + 256 * 1 ∧ 65535 ∣ sum + 256 * 1) <-> _ at hone
      constructor
      · lia
      · intro hlow
        -- the byte that fills the sum up to the next multiple
        have hfill : (UInt8.ofNat ((65535 - sum % 65535) / 256)).toNat =
            (65535 - sum % 65535) / 256 := by
          rw [UInt8.toNat_ofNat']
          lia
        have hfilled := h (UInt8.ofNat ((65535 - sum % 65535) / 256))
        rw [hfill] at hfilled
        lia
  · intro h next
    have hnext : next.toNat < 256 := next.toNat_lt
    rcases h with hzero | ⟨hmod, hlow⟩
    · lia
    · constructor
      · rintro ⟨_, hdvd⟩
        have hsum := completed_eq hnext hmod hdvd
        generalize sum % 65535 = r at hsum hlow
        lia
      · rintro ⟨_, hdvd⟩
        exact absurd (Nat.mod_eq_zero_of_dvd hdvd) hmod

/--
The law holds on the even lengths.  On an odd length it holds if no byte behind
the buffer completes the sum of its words, padded with zero, to a multiple of
65535 that this sum is not.
-/
theorem checkData_looksOnlyAt_iff {data : List UInt8} {len : UInt16}
    (hlen : data.length = len.toNat) :
    LooksOnlyAt data len <->
      len.toNat % 2 = 0 ∨ (leWords data).sum = 0 ∨
        (leWords data).sum % 65535 ≠ 0 ∧
          (leWords data).sum % 65535 % 256 ≠ 255 := by
  rcases Nat.mod_two_eq_zero_or_one len.toNat with heven | hodd
  · exact ⟨fun _ => Or.inl heven, fun _ => looksOnlyAt_even hlen heven⟩
  · have hcomplete := completes_iff (leWords data).sum
    constructor
    · intro h
      right
      apply hcomplete.mp
      intro next
      rw [← checkData_odd hlen hodd next []]
      exact h.padded next []
    · rintro (heven | hsum)
      · lia
      · have hpadded := hcomplete.mpr hsum
        constructor
        · intro next next' behind behind'
          rw [Bool.eq_iff_iff, checkData_odd hlen hodd, checkData_odd hlen hodd,
            hpadded, hpadded]
        · intro next behind
          rw [checkData_odd hlen hodd, hpadded]

theorem checkData_looksOnlyAt_three :
    LooksOnlyAt [1, 2, 3] 3 <->
      (3 : UInt16).toNat % 2 = 0 ∨ (leWords [1, 2, 3]).sum = 0 ∨
        (leWords [1, 2, 3]).sum % 65535 ≠ 0 ∧
          (leWords [1, 2, 3]).sum % 65535 % 256 ≠ 255 :=
  checkData_looksOnlyAt_iff rfl

/-- One byte is rejected or accepted depending on the byte that follows it. -/
theorem not_looksOnlyAt_one_byte : ¬LooksOnlyAt [255] 1 := by
  intro h
  have hsame : checkData ([255] ++ 0 :: []) 1 = checkData ([255] ++ 255 :: []) 1 :=
    h.same 0 255 [] []
  revert hsame
  decide

end EthernetUtils
end Socket
end FarmNetworking
