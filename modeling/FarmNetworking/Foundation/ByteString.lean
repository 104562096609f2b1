import Mathlib.Data.Nat.Digits.Lemmas
import Mathlib.Tactic.Ring

/-!
# Byte strings and fixed-width numbers

A packed C structure is a byte string in which every integer occupies a fixed
number of bytes.  This module relates the two views.  A byte string denotes a
number in little-endian or in big-endian order, a number is written with a fixed
width in either order, and a byte swap exchanges the two.

The second half is about blocks of memory: reading a slice of a block, and
copying a byte string into a block at an offset.
-/

namespace FarmNetworking
namespace Foundation
namespace ByteString

/-!
## Reading and writing numbers
-/

def leNat (bytes : List UInt8) : Nat :=
  Nat.ofDigits 256 (bytes.map UInt8.toNat)

def beNat (bytes : List UInt8) : Nat :=
  leNat bytes.reverse

/-- The low `8 * width` bits of a number, least significant byte first. -/
def leBytes : Nat -> Nat -> List UInt8
  | 0, _ => []
  | width + 1, n => UInt8.ofNat n :: leBytes width (n / 256)

def beBytes (width n : Nat) : List UInt8 :=
  (leBytes width n).reverse

def swapBytes (width n : Nat) : Nat :=
  leNat (beBytes width n)

@[simp] theorem leNat_nil : leNat [] = 0 := rfl

@[simp] theorem leNat_cons (b : UInt8) (bytes : List UInt8) :
    leNat (b :: bytes) = b.toNat + 256 * leNat bytes := by
  simp [leNat, Nat.ofDigits_cons]

theorem leBytes_zero (n : Nat) : leBytes 0 n = [] := rfl

theorem leBytes_succ (width n : Nat) :
    leBytes (width + 1) n = UInt8.ofNat n :: leBytes width (n / 256) := rfl

@[simp] theorem leBytes_length (width n : Nat) :
    (leBytes width n).length = width := by
  induction width generalizing n with
  | zero => rfl
  | succ width ih => simp only [leBytes_succ, List.length_cons, ih]

@[simp] theorem beBytes_length (width n : Nat) :
    (beBytes width n).length = width := by
  simp only [beBytes, List.length_reverse, leBytes_length]

theorem leNat_lt (bytes : List UInt8) : leNat bytes < 256 ^ bytes.length := by
  have hdigits : forall d, d ∈ bytes.map UInt8.toNat -> d < 256 := by
    intro d hd
    rcases List.mem_map.mp hd with ⟨b, _hb, rfl⟩
    exact b.toNat_lt
  simpa [leNat] using Nat.ofDigits_lt_base_pow_length (by decide) hdigits

theorem leNat_leBytes (width n : Nat) :
    leNat (leBytes width n) = n % 256 ^ width := by
  induction width generalizing n with
  | zero => simp [leBytes_zero, Nat.mod_one]
  | succ width ih =>
      rw [leBytes_succ, leNat_cons, ih, pow_succ', Nat.mod_mul]
      simp

theorem leBytes_leNat (bytes : List UInt8) :
    leBytes bytes.length (leNat bytes) = bytes := by
  induction bytes with
  | nil => rfl
  | cons b bytes ih =>
      have hb : b.toNat < 256 := b.toNat_lt
      have hhead : UInt8.ofNat (b.toNat + 256 * leNat bytes) = b := by
        apply UInt8.toNat_inj.mp
        rw [UInt8.toNat_ofNat']
        lia
      have htail : (b.toNat + 256 * leNat bytes) / 256 = leNat bytes := by
        lia
      simp only [List.length_cons, leNat_cons, leBytes_succ, hhead, htail, ih]

theorem beNat_beBytes (width n : Nat) :
    beNat (beBytes width n) = n % 256 ^ width := by
  simp only [beNat, beBytes, List.reverse_reverse, leNat_leBytes]

theorem swapBytes_lt (width n : Nat) : swapBytes width n < 256 ^ width := by
  simpa [swapBytes] using leNat_lt (beBytes width n)

theorem leBytes_swapBytes (width n : Nat) :
    leBytes width (swapBytes width n) = beBytes width n := by
  have h := leBytes_leNat (beBytes width n)
  rwa [beBytes_length] at h

theorem swapBytes_swapBytes (width n : Nat) :
    swapBytes width (swapBytes width n) = n % 256 ^ width := by
  rw [swapBytes, beBytes, leBytes_swapBytes, beBytes, List.reverse_reverse,
    leNat_leBytes]

theorem beBytes_succ (width n : Nat) :
    beBytes (width + 1) n =
      UInt8.ofNat (n / 256 ^ width) :: beBytes width n := by
  induction width generalizing n with
  | zero => simp [beBytes, leBytes_zero, leBytes_succ]
  | succ width ih =>
      have hstep := ih (n / 256)
      rw [beBytes, leBytes_succ, List.reverse_cons]
      change beBytes (width + 1) (n / 256) ++ [UInt8.ofNat n] = _
      rw [hstep, Nat.div_div_eq_div_mul, ← pow_succ', List.cons_append]
      rw [show beBytes (width + 1) n =
          beBytes width (n / 256) ++ [UInt8.ofNat n] by
        rw [beBytes, leBytes_succ, List.reverse_cons, beBytes]]

/--
Shifting the swapped number down by one byte leaves the swapped number of the
low bytes: the most significant byte, stored first, is the one that is lost.
-/
theorem swapBytes_succ_div (width n : Nat) :
    swapBytes (width + 1) n / 256 = swapBytes width n := by
  have hb : (UInt8.ofNat (n / 256 ^ width)).toNat < 256 :=
    (UInt8.ofNat (n / 256 ^ width)).toNat_lt
  rw [swapBytes, beBytes_succ, leNat_cons, swapBytes]
  lia

/-!
## Slices of a block
-/

def slice (offset width : Nat) (block : List UInt8) : List UInt8 :=
  (block.drop offset).take width

theorem drop_append_right {a b : List UInt8} {offset : Nat}
    (h : a.length ≤ offset) :
    (a ++ b).drop offset = b.drop (offset - a.length) := by
  rw [List.drop_append, List.drop_of_length_le h, List.nil_append]

theorem slice_append_right {a b : List UInt8} {offset width : Nat}
    (h : a.length ≤ offset) :
    slice offset width (a ++ b) = slice (offset - a.length) width b := by
  simp only [slice, drop_append_right h]

theorem slice_append_left {a : List UInt8} {offset width : Nat}
    (h : offset + width ≤ a.length) (b : List UInt8) :
    slice offset width (a ++ b) = slice offset width a := by
  have hwidth : width ≤ (a.drop offset).length := by
    rw [List.length_drop]
    lia
  rw [slice, slice, List.drop_append_of_le_length (by lia),
    List.take_append_of_le_length hwidth]

theorem slice_cons (b : UInt8) (block : List UInt8) (offset width : Nat) :
    slice (offset + 1) width (b :: block) = slice offset width block := rfl

theorem slice_head (b : UInt8) (block : List UInt8) :
    slice 0 1 (b :: block) = [b] := rfl

theorem slice_append_here {a b : List UInt8} {width : Nat}
    (h : a.length = width) : slice 0 width (a ++ b) = a := by
  simp only [slice, List.drop_zero, ← h, List.take_left']

/-!
## Copying into a block

A copy that runs over the end of the destination writes only the part that
fits.  Whether a copy stays inside is stated separately, by comparing lengths.
-/

/-- The destination after a byte string was copied to an offset of it. -/
def copyAt (dst : List UInt8) (offset : Nat) (src : List UInt8) :
    List UInt8 :=
  dst.take offset ++ src.take (dst.length - offset) ++
    dst.drop (offset + src.length)

@[simp] theorem copyAt_length (dst : List UInt8) (offset : Nat)
    (src : List UInt8) : (copyAt dst offset src).length = dst.length := by
  simp only [copyAt, List.length_append, List.length_take, List.length_drop]
  lia

theorem copyAt_zero {dst src : List UInt8} (h : src.length ≤ dst.length) :
    copyAt dst 0 src = src ++ dst.drop src.length := by
  rw [copyAt, List.take_zero, List.nil_append, Nat.sub_zero,
    List.take_of_length_le h, Nat.zero_add]

theorem copyAt_append {a x y b : List UInt8} (hlen : x.length = y.length) :
    copyAt (a ++ (x ++ b)) a.length y = a ++ (y ++ b) := by
  have hroom : y.length ≤ (a ++ (x ++ b)).length - a.length := by
    simp only [List.length_append]
    lia
  have hdrop : (a ++ (x ++ b)).drop (a.length + y.length) = b := by
    rw [← hlen, ← List.drop_drop, List.drop_left, List.drop_left]
  rw [copyAt, List.take_left, List.take_of_length_le hroom, hdrop,
    List.append_assoc]

end ByteString
end Foundation
end FarmNetworking
