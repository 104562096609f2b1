import FarmNetworking.Foundation.ByteString
import Mathlib.Logic.Function.Basic

/-!
# One buffer and several readers

Data are copied to the front of a buffer.  Whoever asked for them is told the
address and the length, and reads there later, when the buffer may have been used
again for somebody else.
-/

namespace FarmNetworking
namespace Foundation

open ByteString

/-- `lent` is what each reader believes to find at the front of the buffer. -/
structure SharedBuffer (reader : Type*) where
  bytes : List UInt8
  lent : reader -> Option (List UInt8)

namespace SharedBuffer

variable {reader : Type*} [DecidableEq reader]

def lend (b : SharedBuffer reader) (i : reader) (src : List UInt8) :
    SharedBuffer reader where
  bytes := copyAt b.bytes 0 src
  lent := Function.update b.lent i (some src)

def giveBack (b : SharedBuffer reader) (i : reader) : SharedBuffer reader where
  bytes := b.bytes
  lent := Function.update b.lent i none

section Fields

variable (b : SharedBuffer reader) (i : reader) (src : List UInt8)

@[simp] theorem lend_lent_self : (b.lend i src).lent i = some src :=
  Function.update_self ..

@[simp] theorem giveBack_lent_self : (b.giveBack i).lent i = none :=
  Function.update_self ..

theorem lend_lent_of_ne {j : reader} (h : j ≠ i) :
    (b.lend i src).lent j = b.lent j :=
  Function.update_of_ne h ..

theorem giveBack_lent_of_ne {j : reader} (h : j ≠ i) :
    (b.giveBack i).lent j = b.lent j :=
  Function.update_of_ne h ..

end Fields

def Intact (b : SharedBuffer reader) : Prop :=
  forall i src, b.lent i = some src -> b.bytes.take src.length = src

/-- The byte strings are the same as far as both of them go. -/
def Agree (a b : List UInt8) : Prop :=
  a.take b.length = b.take a.length

instance Agree.decidable (a b : List UInt8) : Decidable (Agree a b) :=
  inferInstanceAs (Decidable (_ = _))

theorem take_copyAt_iff {bytes src old : List UInt8}
    (hsrc : src.length ≤ bytes.length) (hold : bytes.take old.length = old) :
    (copyAt bytes 0 src).take old.length = old <-> Agree src old := by
  have htail : (bytes.drop src.length).take (old.length - src.length) =
      old.drop src.length := by
    conv_rhs => rw [← hold]
    rw [List.drop_take]
  rw [copyAt_zero hsrc, List.take_append, htail, Agree]
  constructor
  · intro h
    have hfront := congrArg (List.take src.length) h
    rcases Nat.le_total src.length old.length with hle | hle
    · rw [List.take_of_length_le hle, List.take_left] at hfront
      rw [List.take_of_length_le hle]
      exact hfront
    · rw [List.drop_of_length_le hle, List.append_nil] at h
      rw [h, List.take_of_length_le hle]
  · intro h
    rw [h]
    exact List.take_append_drop src.length old

theorem giveBack_intact {b : SharedBuffer reader} (h : b.Intact) (i : reader) :
    (b.giveBack i).Intact := by
  intro j src hj
  by_cases hji : j = i
  · subst hji
    rw [giveBack_lent_self] at hj
    cases hj
  · rw [giveBack_lent_of_ne _ _ hji] at hj
    exact h j src hj

theorem lend_intact_iff {b : SharedBuffer reader} (h : b.Intact) (i : reader)
    {src : List UInt8} (hsrc : src.length ≤ b.bytes.length) :
    (b.lend i src).Intact <->
      forall j, j ≠ i -> forall old, b.lent j = some old -> Agree src old := by
  constructor
  · intro hintact j hji old hold
    rw [← lend_lent_of_ne b i src hji] at hold
    have hread := hintact j old hold
    rw [lend_lent_of_ne b i src hji] at hold
    exact (take_copyAt_iff hsrc (h j old hold)).mp hread
  · intro hagree j old hj
    by_cases hji : j = i
    · subst hji
      rw [lend_lent_self] at hj
      cases hj
      change (copyAt b.bytes 0 src).take src.length = src
      rw [copyAt_zero hsrc, List.take_left]
    · rw [lend_lent_of_ne _ _ _ hji] at hj
      exact (take_copyAt_iff hsrc (h j old hj)).mpr (hagree j hji old hj)

end SharedBuffer

end Foundation
end FarmNetworking
