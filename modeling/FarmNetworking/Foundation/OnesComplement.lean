import FarmNetworking.Foundation.ByteString
import Mathlib.Algebra.Order.BigOperators.Group.List
import Mathlib.Data.Nat.ModEq

/-!
# Sixteen-bit one's-complement sums

Internet checksums add 16-bit words modulo 65535.  Two ways of computing such a
sum are common: add each word with an end-around carry, or add everything first
and fold the carries back in at the end.  Both are related here to the exact sum
of the words modulo 65535, which is what makes a generator that uses one order
of summation agree with a checker that uses another.
-/

namespace FarmNetworking
namespace Foundation
namespace OnesComplement

open ByteString

/-!
## Words of a byte string

An odd trailing byte is the high half of a big-endian word and the low half of
a little-endian word, as if the string were padded with a zero byte.
-/

def beWords : List UInt8 -> List Nat
  | [] => []
  | [a] => [a.toNat * 256]
  | a :: b :: rest => (a.toNat * 256 + b.toNat) :: beWords rest

def leWords : List UInt8 -> List Nat
  | [] => []
  | [a] => [a.toNat]
  | a :: b :: rest => (a.toNat + b.toNat * 256) :: leWords rest

theorem beWords_le (bytes : List UInt8) :
    forall w, w ∈ beWords bytes -> w ≤ 65535 := by
  induction bytes using beWords.induct with
  | case1 =>
      intro w hw
      cases hw
  | case2 a =>
      intro w hw
      have ha : a.toNat < 256 := a.toNat_lt
      rw [beWords, List.mem_singleton] at hw
      lia
  | case3 a b rest ih =>
      intro w hw
      have ha : a.toNat < 256 := a.toNat_lt
      have hb : b.toNat < 256 := b.toNat_lt
      rw [beWords, List.mem_cons] at hw
      rcases hw with rfl | hrest
      · lia
      · exact ih w hrest

theorem leWords_le (bytes : List UInt8) :
    forall w, w ∈ leWords bytes -> w ≤ 65535 := by
  induction bytes using leWords.induct with
  | case1 =>
      intro w hw
      cases hw
  | case2 a =>
      intro w hw
      have ha : a.toNat < 256 := a.toNat_lt
      rw [leWords, List.mem_singleton] at hw
      lia
  | case3 a b rest ih =>
      intro w hw
      have ha : a.toNat < 256 := a.toNat_lt
      have hb : b.toNat < 256 := b.toNat_lt
      rw [leWords, List.mem_cons] at hw
      rcases hw with rfl | hrest
      · lia
      · exact ih w hrest

theorem leWords_length_le (bytes : List UInt8) :
    (leWords bytes).length ≤ (bytes.length + 1) / 2 := by
  induction bytes using leWords.induct with
  | case1 => simp [leWords]
  | case2 a => simp [leWords]
  | case3 a b rest ih =>
      simp only [leWords, List.length_cons]
      lia

theorem leWords_sum_le (bytes : List UInt8) :
    (leWords bytes).sum ≤ 65535 * ((bytes.length + 1) / 2) := by
  have hsum : (leWords bytes).sum ≤ (leWords bytes).length * 65535 :=
    List.sum_le_card_nsmul (leWords bytes) 65535 (leWords_le bytes)
  have hlength := leWords_length_le bytes
  lia

theorem beWords_append {a b : List UInt8} (heven : a.length % 2 = 0) :
    beWords (a ++ b) = beWords a ++ beWords b := by
  induction a using beWords.induct with
  | case1 => rfl
  | case2 x => simp at heven
  | case3 x y rest ih =>
      have hrest : rest.length % 2 = 0 := by
        simp only [List.length_cons] at heven
        lia
      simp only [List.cons_append, beWords, ih hrest]

theorem leWords_append {a b : List UInt8} (heven : a.length % 2 = 0) :
    leWords (a ++ b) = leWords a ++ leWords b := by
  induction a using leWords.induct with
  | case1 => rfl
  | case2 x => simp at heven
  | case3 x y rest ih =>
      have hrest : rest.length % 2 = 0 := by
        simp only [List.length_cons] at heven
        lia
      simp only [List.cons_append, leWords, ih hrest]

theorem beWords_beBytes (n : Nat) : beWords (beBytes 2 n) = [n % 65536] := by
  have h := beNat_beBytes 2 n
  simp only [beBytes, leBytes_succ, leBytes_zero, List.reverse_cons,
    List.reverse_nil, List.nil_append, List.cons_append, beNat, leNat_cons,
    leNat_nil] at h
  simp only [beBytes, leBytes_succ, leBytes_zero, List.reverse_cons,
    List.reverse_nil, List.nil_append, List.cons_append, beWords]
  congr 1
  lia

theorem leWords_leBytes (n : Nat) : leWords (leBytes 2 n) = [n % 65536] := by
  have h := leNat_leBytes 2 n
  simp only [leBytes_succ, leBytes_zero, leNat_cons, leNat_nil] at h
  simp only [leBytes_succ, leBytes_zero, leWords]
  congr 1
  lia

/-!
## End-around carry

The running sum never returns to zero once it is positive, so the representative
of the zero class that a checker sees is 65535.
-/

def endAroundAdd (sum word : Nat) : Nat :=
  if 65535 < sum + word then sum + word - 65535 else sum + word

def endAroundSum (sum : Nat) (words : List Nat) : Nat :=
  words.foldl endAroundAdd sum

@[simp] theorem endAroundSum_nil (sum : Nat) : endAroundSum sum [] = sum := rfl

@[simp] theorem endAroundSum_cons (sum word : Nat) (words : List Nat) :
    endAroundSum sum (word :: words) =
      endAroundSum (endAroundAdd sum word) words := rfl

theorem endAroundSum_append (sum : Nat) (a b : List Nat) :
    endAroundSum sum (a ++ b) = endAroundSum (endAroundSum sum a) b := by
  simp only [endAroundSum, List.foldl_append]

theorem endAroundAdd_modEq (sum word : Nat) :
    endAroundAdd sum word ≡ sum + word [MOD 65535] := by
  unfold endAroundAdd Nat.ModEq
  split
  · lia
  · rfl

theorem endAroundSum_modEq (sum : Nat) (words : List Nat) :
    endAroundSum sum words ≡ sum + words.sum [MOD 65535] := by
  induction words generalizing sum with
  | nil => exact Nat.ModEq.refl _
  | cons word words ih =>
      have hword : endAroundAdd sum word + words.sum ≡
          sum + word + words.sum [MOD 65535] :=
        (endAroundAdd_modEq sum word).add_right _
      rw [endAroundSum_cons, List.sum_cons, ← Nat.add_assoc]
      exact (ih _).trans hword

theorem endAroundAdd_le {bound sum word : Nat} (hbound : 65535 ≤ bound)
    (hsum : sum ≤ bound) (hword : word ≤ 65535) :
    endAroundAdd sum word ≤ bound := by
  unfold endAroundAdd
  split <;> lia

theorem endAroundAdd_pos {sum word : Nat} (hsum : 0 < sum) :
    0 < endAroundAdd sum word := by
  unfold endAroundAdd
  split <;> lia

theorem endAroundSum_le {bound sum : Nat} {words : List Nat}
    (hbound : 65535 ≤ bound) (hsum : sum ≤ bound)
    (hwords : forall w, w ∈ words -> w ≤ 65535) :
    endAroundSum sum words ≤ bound := by
  induction words generalizing sum with
  | nil => exact hsum
  | cons word words ih =>
      have hhead : endAroundAdd sum word ≤ bound :=
        endAroundAdd_le hbound hsum (hwords word (List.mem_cons_self ..))
      exact ih hhead (fun w hw => hwords w (List.mem_cons_of_mem _ hw))

theorem endAroundSum_pos {sum : Nat} {words : List Nat} (hsum : 0 < sum) :
    0 < endAroundSum sum words := by
  induction words generalizing sum with
  | nil => exact hsum
  | cons word words ih => exact ih (endAroundAdd_pos hsum)

/--
A positive running sum ends at 65535 exactly on the multiples of 65535.  It may
start above 65535, as long as it starts below twice this number.
-/
theorem endAroundSum_eq_iff {sum : Nat} {words : List Nat} (hpos : 0 < sum)
    (hsum : sum ≤ 131069) (hwords : forall w, w ∈ words -> w ≤ 65535) :
    endAroundSum sum words = 65535 <-> 65535 ∣ sum + words.sum := by
  have hmod := endAroundSum_modEq sum words
  have hle := endAroundSum_le (by decide) hsum hwords
  have hres : 0 < endAroundSum sum words := endAroundSum_pos hpos
  unfold Nat.ModEq at hmod
  constructor
  · intro h
    rw [h] at hmod
    lia
  · intro h
    lia

/--
Putting the complement of the sum in the place of a zero word makes the whole
sum 65535.
-/
theorem endAroundSum_complement {sum : Nat} {a b : List Nat} (hpos : 0 < sum)
    (hsum : sum ≤ 65535) (ha : forall w, w ∈ a -> w ≤ 65535)
    (hb : forall w, w ∈ b -> w ≤ 65535) :
    endAroundSum sum
        (a ++ (65535 - endAroundSum sum (a ++ 0 :: b)) :: b) = 65535 := by
  have hzero : forall w, w ∈ a ++ 0 :: b -> w ≤ 65535 := by
    intro w hw
    rcases List.mem_append.mp hw with hwa | hwb
    · exact ha w hwa
    · rcases List.mem_cons.mp hwb with rfl | hwb
      · lia
      · exact hb w hwb
  have hle := endAroundSum_le (Nat.le_refl _) hsum hzero
  have hmod := endAroundSum_modEq sum (a ++ 0 :: b)
  rw [endAroundSum_eq_iff hpos (by lia)]
  · simp only [List.sum_append, List.sum_cons] at hmod ⊢
    unfold Nat.ModEq at hmod
    lia
  · intro w hw
    rcases List.mem_append.mp hw with hwa | hwb
    · exact ha w hwa
    · rcases List.mem_cons.mp hwb with rfl | hwb
      · lia
      · exact hb w hwb

/-!
## Folding at the end

The fold adds the upper half of the sum to the lower half, twice.  The second
addition is not masked, so a result above 16 bits is possible.
-/

/-- Add the carries above bit 15 back in, twice, without a final mask. -/
def fold (sum : Nat) : Nat :=
  let once := sum / 65536 + sum % 65536
  once + once / 65536

theorem fold_modEq {sum : Nat} (hsum : sum ≤ 65535 * 65535) :
    fold sum % 65536 ≡ sum [MOD 65535] := by
  generalize honce : sum / 65536 + sum % 65536 = once
  have hsplit : sum = 65535 * (sum / 65536) + once := by lia
  have hclass : once % 65535 = sum % 65535 := by
    conv_rhs => rw [hsplit, Nat.mul_add_mod]
  have hbound : once < 65536 + 65535 := by lia
  simp only [fold, honce, Nat.ModEq]
  rcases Nat.lt_or_ge once 65536 with hlt | hge
  · rw [Nat.div_eq_of_lt hlt, Nat.add_zero, Nat.mod_eq_of_lt hlt, hclass]
  · have hcarry : once / 65536 = 1 := by lia
    have hlow : (once + 1) % 65536 = once - 65535 := by lia
    rw [hcarry, hlow, ← hclass]
    exact (Nat.mod_eq_sub_mod (by lia)).symm

theorem fold_mul {q : Nat} (hpos : 0 < q) (hq : q ≤ 65536) :
    fold (65535 * q) = 65535 := by
  have hhigh : 65535 * q / 65536 = q - 1 := by lia
  have hlow : 65535 * q % 65536 = 65536 - q := by lia
  have honce : q - 1 + (65536 - q) = 65535 := by lia
  simp only [fold, hhigh, hlow, honce]

theorem fold_complement {sum : Nat} (hsum : sum ≤ 65535 * 65534) :
    fold (sum + (65535 - fold sum % 65536)) = 65535 := by
  have hmod : fold sum % 65536 ≡ sum [MOD 65535] := fold_modEq (by lia)
  have hlt : fold sum % 65536 < 65536 := Nat.mod_lt _ (by decide)
  unfold Nat.ModEq at hmod
  have hdvd : 65535 ∣ sum + (65535 - fold sum % 65536) := by lia
  rcases hdvd with ⟨q, hq⟩
  have hqpos : 0 < q := by
    rcases Nat.eq_zero_or_pos q with rfl | hpos
    · have hzero : sum = 0 := by lia
      subst hzero
      simp [fold] at hq
    · exact hpos
  rw [hq]
  exact fold_mul hqpos (by lia)

/-- The fold is 65535 exactly on the positive multiples of 65535. -/
theorem fold_eq_iff {sum : Nat} (hsum : sum ≤ 65535 * 65535) :
    fold sum = 65535 <-> 0 < sum ∧ 65535 ∣ sum := by
  constructor
  · intro h
    have hmod := fold_modEq hsum
    rw [h] at hmod
    unfold Nat.ModEq at hmod
    constructor
    · rcases Nat.eq_zero_or_pos sum with rfl | hpos
      · simp [fold] at h
      · exact hpos
    · exact Nat.dvd_of_mod_eq_zero hmod.symm
  · rintro ⟨hpos, q, rfl⟩
    exact fold_mul (by lia) (by lia)

/-!
## Replacing one word

Two different words are the same modulo 65535 only if one of them is 0 and the
other 65535.  Any other replacement of a word changes the class of the sum.
-/

/-- Different words, and not the two representations of zero. -/
def Distinguished (word word' : Nat) : Prop :=
  word ≠ word' ∧ ¬(word = 0 ∧ word' = 65535) ∧ ¬(word = 65535 ∧ word' = 0)

instance (word word' : Nat) : Decidable (Distinguished word word') :=
  inferInstanceAs (Decidable (_ ∧ _))

theorem Distinguished.mod_ne {word word' : Nat} (h : Distinguished word word')
    (hword : word ≤ 65535) (hword' : word' ≤ 65535) :
    word % 65535 ≠ word' % 65535 := by
  rcases h with ⟨hne, hup, hdown⟩
  lia

/--
Exactly one aligned 16-bit word differs between the byte strings.  The last byte
of a string of odd length is a word by itself.
-/
inductive WordReplaced : List UInt8 -> List UInt8 -> Prop where
  | word {front back : List UInt8} {a b a' b' : UInt8}
      (heven : front.length % 2 = 0)
      (hword : Distinguished (a.toNat * 256 + b.toNat)
        (a'.toNat * 256 + b'.toNat)) :
      WordReplaced (front ++ a :: b :: back) (front ++ a' :: b' :: back)
  | last {front : List UInt8} {a a' : UInt8} (heven : front.length % 2 = 0)
      (hbyte : a ≠ a') : WordReplaced (front ++ [a]) (front ++ [a'])

theorem WordReplaced.length_eq {old new : List UInt8} (h : WordReplaced old new) :
    new.length = old.length := by
  cases h with
  | word => simp
  | last => simp

theorem WordReplaced.append {old new : List UInt8} (h : WordReplaced old new)
    (heven : old.length % 2 = 0) (rest : List UInt8) :
    WordReplaced (old ++ rest) (new ++ rest) := by
  cases h with
  | word hfront hword =>
      simp only [List.append_assoc, List.cons_append]
      exact .word hfront hword
  | last hfront _ =>
      rw [List.length_append, List.length_singleton] at heven
      lia

theorem WordReplaced.prepend {old new : List UInt8} (h : WordReplaced old new)
    {front : List UInt8} (heven : front.length % 2 = 0) :
    WordReplaced (front ++ old) (front ++ new) := by
  cases h with
  | @word front' _ _ _ _ _ hfront hword =>
      rw [← List.append_assoc, ← List.append_assoc]
      apply WordReplaced.word _ hword
      rw [List.length_append]
      lia
  | @last front' _ _ hfront hbyte =>
      rw [← List.append_assoc, ← List.append_assoc]
      apply WordReplaced.last _ hbyte
      rw [List.length_append]
      lia

theorem wordReplaced_beBytes {n n' : Nat} (hn : n < 65536) (hn' : n' < 65536)
    (h : Distinguished n n') : WordReplaced (beBytes 2 n) (beBytes 2 n') := by
  have hword : forall m, m < 65536 ->
      (UInt8.ofNat (m / 256)).toNat * 256 + (UInt8.ofNat m).toNat = m := by
    intro m hm
    rw [UInt8.toNat_ofNat', UInt8.toNat_ofNat']
    lia
  rw [← hword n hn, ← hword n' hn'] at h
  exact @WordReplaced.word [] [] _ _ _ _ rfl h

theorem WordReplaced.words {old new : List UInt8} (h : WordReplaced old new) :
    exists (front back : List Nat) (word word' : Nat),
      beWords old = front ++ word :: back ∧
        beWords new = front ++ word' :: back ∧
          word % 65535 ≠ word' % 65535 := by
  cases h with
  | @word front back a b a' b' heven hword =>
      have ha : a.toNat < 256 := a.toNat_lt
      have hb : b.toNat < 256 := b.toNat_lt
      have ha' : a'.toNat < 256 := a'.toNat_lt
      have hb' : b'.toNat < 256 := b'.toNat_lt
      refine ⟨beWords front, beWords back, a.toNat * 256 + b.toNat,
        a'.toNat * 256 + b'.toNat, ?_, ?_, ?_⟩
      · rw [beWords_append heven, beWords]
      · rw [beWords_append heven, beWords]
      · exact hword.mod_ne (by lia) (by lia)
  | @last front a a' heven hbyte =>
      have ha : a.toNat < 256 := a.toNat_lt
      have ha' : a'.toNat < 256 := a'.toNat_lt
      have hne : a.toNat ≠ a'.toNat := fun h => hbyte (UInt8.toNat_inj.mp h)
      refine ⟨beWords front, [], a.toNat * 256, a'.toNat * 256, ?_, ?_, ?_⟩
      · rw [beWords_append heven, beWords]
      · rw [beWords_append heven, beWords]
      · lia

theorem not_dvd_of_mod_ne {rest times word word' : Nat}
    (hcoprime : Nat.Coprime 65535 times) (hne : word % 65535 ≠ word' % 65535)
    (h : 65535 ∣ rest + times * word) : ¬65535 ∣ rest + times * word' := by
  intro h'
  have hsum : rest + times * word ≡ rest + times * word' [MOD 65535] :=
    (Nat.modEq_zero_iff_dvd.mpr h).trans (Nat.modEq_zero_iff_dvd.mpr h').symm
  have htimes : times * word ≡ times * word' [MOD 65535] :=
    Nat.ModEq.add_left_cancel' rest hsum
  exact hne (Nat.ModEq.cancel_left_of_coprime hcoprime htimes)

/--
A sum that counts one of its words twice still notices the replacement of any
word, because 65535 is odd.
-/
theorem WordReplaced.not_dvd {old new : List UInt8} (h : WordReplaced old new)
    {seed twice : Nat}
    (hold : 65535 ∣ seed + (beWords old).getD twice 0 + (beWords old).sum) :
    ¬65535 ∣ seed + (beWords new).getD twice 0 + (beWords new).sum := by
  rcases h.words with ⟨front, back, word, word', hwords, hwords', hne⟩
  have hsplit : exists rest times : Nat, Nat.Coprime 65535 times ∧
      forall w, seed + (front ++ w :: back).getD twice 0 +
        (front ++ w :: back).sum = rest + times * w := by
    simp only [List.sum_append, List.sum_cons, List.getD_eq_getElem?_getD]
    rcases Nat.lt_trichotomy twice front.length with hlt | rfl | hgt
    · exists seed + front[twice]?.getD 0 + (front.sum + back.sum), 1
      constructor
      · decide
      · intro w
        rw [List.getElem?_append_left hlt]
        lia
    · exists seed + (front.sum + back.sum), 2
      constructor
      · decide
      · intro w
        rw [List.getElem?_append_right (Nat.le_refl _), Nat.sub_self,
          List.getElem?_cons_zero, Option.getD_some]
        lia
    · have hbehind : twice - front.length = twice - front.length - 1 + 1 := by
        lia
      exists seed + back[twice - front.length - 1]?.getD 0 +
        (front.sum + back.sum), 1
      constructor
      · decide
      · intro w
        rw [List.getElem?_append_right (Nat.le_of_lt hgt), hbehind,
          List.getElem?_cons_succ, Nat.add_sub_cancel]
        lia
  rcases hsplit with ⟨rest, times, hcoprime, hsum⟩
  rw [hwords, hsum] at hold
  rw [hwords', hsum]
  exact not_dvd_of_mod_ne hcoprime hne hold

end OnesComplement
end Foundation
end FarmNetworking
