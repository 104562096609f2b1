import Mathlib.Data.List.Basic
import Mathlib.Data.List.Perm.Basic

/-!
# Lists split in two

A consumer takes items from a queue one by one and puts each on one of two piles.
The piles then split the list of the items taken: every item is on one of them,
and both keep the order in which the items were taken.
-/

namespace FarmNetworking
namespace Foundation

variable {item : Type*}

/-- The first list has been dealt out to the other two. -/
inductive Splits : List item -> List item -> List item -> Prop where
  | nil : Splits [] [] []
  | left {taken first second : List item} (x : item) :
      Splits taken first second -> Splits (taken ++ [x]) (first ++ [x]) second
  | right {taken first second : List item} (x : item) :
      Splits taken first second -> Splits (taken ++ [x]) first (second ++ [x])

namespace Splits

variable {taken first second : List item}

theorem right_sublist (h : Splits taken first second) :
    second.Sublist taken := by
  induction h with
  | nil => exact List.Sublist.refl []
  | left x _ ih => exact ih.trans (List.sublist_append_left _ _)
  | right x _ ih => exact ih.append (List.Sublist.refl [x])

theorem perm (h : Splits taken first second) :
    taken.Perm (first ++ second) := by
  induction h with
  | nil => exact List.Perm.refl []
  | left x _ ih =>
      refine (ih.append_right [x]).trans ?_
      rw [List.append_assoc, List.append_assoc]
      exact List.perm_append_comm.append_left _
  | right x _ ih =>
      refine (ih.append_right [x]).trans ?_
      rw [List.append_assoc]

end Splits

end Foundation
end FarmNetworking
