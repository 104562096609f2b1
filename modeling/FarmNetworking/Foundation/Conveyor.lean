import FarmNetworking.Foundation.Runs
import Mathlib.Algebra.BigOperators.Pi
import Mathlib.Algebra.BigOperators.Group.Finset.Piecewise
import Mathlib.Algebra.Order.Group.Multiset
import Mathlib.Algebra.Order.BigOperators.Group.Finset
import Mathlib.Logic.Relation
import Mathlib.Tactic.Abel

/-!
# Conveyors

A conveyor is what a queue with its consumers is for.  Items enter, wait, are
taken by a consumer that holds them for a while, and leave through one of several
exits.  Nothing else happens to an item: it is neither lost nor duplicated, and
once it has left it stays where it went.

The description is abstract: it says nothing about order, about who holds an
item, or about how a consumer decides.  A concrete system is connected to it by
showing that each of its steps is a sequence of conveyor steps.
-/

namespace FarmNetworking
namespace Foundation

structure Conveyor (item exit : Type*) where
  entered : Multiset item
  waiting : Multiset item
  held : Multiset item
  left : exit -> Multiset item

namespace Conveyor

variable {item exit : Type*}

inductive Step : Conveyor item exit -> Conveyor item exit -> Prop where
  | enter {c d : Conveyor item exit} (x : Multiset item) :
      d.entered = c.entered + x -> d.waiting = c.waiting + x ->
      d.held = c.held -> d.left = c.left -> Step c d
  | take {c d : Conveyor item exit} (x : Multiset item) :
      d.entered = c.entered -> c.waiting = x + d.waiting ->
      d.held = c.held + x -> d.left = c.left -> Step c d
  | leave {c d : Conveyor item exit} (e : exit) (x : Multiset item) :
      d.entered = c.entered -> d.waiting = c.waiting ->
      c.held = x + d.held -> d.left e = c.left e + x ->
      (forall e', e' ≠ e -> d.left e' = c.left e') -> Step c d

def Steps : Conveyor item exit -> Conveyor item exit -> Prop :=
  Relation.ReflTransGen Step

theorem Steps.same {c d : Conveyor item exit} (hentered : d.entered = c.entered)
    (hwaiting : d.waiting = c.waiting) (hheld : d.held = c.held)
    (hleft : d.left = c.left) : Steps c d := by
  cases c
  cases d
  cases hentered
  cases hwaiting
  cases hheld
  cases hleft
  exact Relation.ReflTransGen.refl

/-!
## Conservation
-/

def Balanced [Fintype exit] (c : Conveyor item exit) : Prop :=
  c.entered = c.waiting + c.held + ∑ e, c.left e

theorem sum_add_of_eq_off {place : Type*} [Fintype place]
    {f g : place -> Multiset item} {e : place} {x : Multiset item}
    (he : g e = f e + x) (hother : forall e', e' ≠ e -> g e' = f e') :
    ∑ d, g d = ∑ d, f d + x := by
  classical
  have hpoint : g = f + Pi.single e x := by
    funext d
    by_cases h : d = e
    · subst h
      simp [he]
    · simp [hother d h, h]
  rw [hpoint]
  simp only [Pi.add_apply, Finset.sum_add_distrib, Finset.sum_pi_single', Finset.mem_univ,
    if_true]

section Places

variable {place content : Type*} [Fintype place] [DecidableEq place]

theorem sum_update_add {amount : Type*} [AddCommMonoid amount]
    (f : content -> amount) (contents : place -> content) (p : place)
    (new : content) :
    ∑ d, f (Function.update contents p new d) + f (contents p) =
      ∑ d, f (contents d) + f new := by
  have hother : ∑ d ∈ Finset.univ.erase p, f (Function.update contents p new d) =
      ∑ d ∈ Finset.univ.erase p, f (contents d) := by
    refine Finset.sum_congr rfl ?_
    intro d hd
    rw [Function.update_of_ne (Finset.ne_of_mem_erase hd)]
  rw [← Finset.add_sum_erase _ _ (Finset.mem_univ p), hother,
    ← Finset.add_sum_erase Finset.univ (fun d => f (contents d))
      (Finset.mem_univ p), Function.update_self]
  abel

variable (f : content -> Multiset item) (contents : place -> content) (p : place)
  (new : content)

theorem sum_update_exchange {x y : Multiset item}
    (h : f (contents p) + x = f new + y) :
    ∑ d, f (Function.update contents p new d) + y = ∑ d, f (contents d) + x := by
  have hsum := sum_update_add f contents p new
  refine add_right_cancel (b := f (contents p)) ?_
  calc
    _ = ∑ d, f (Function.update contents p new d) + f (contents p) + y := by
      abel
    _ = ∑ d, f (contents d) + (f new + y) := by
      rw [hsum, add_assoc]
    _ = _ := by
      rw [← h]
      abel

theorem sum_update_gain {x : Multiset item} (h : f new = f (contents p) + x) :
    ∑ d, f (Function.update contents p new d) = ∑ d, f (contents d) + x := by
  have hnew : f (contents p) + x = f new + 0 := by rw [add_zero, h]
  have hsum := sum_update_exchange f contents p new hnew
  rw [add_zero] at hsum
  exact hsum

theorem sum_update_lose {x : Multiset item} (h : f (contents p) = x + f new) :
    ∑ d, f (contents d) = x + ∑ d, f (Function.update contents p new d) := by
  have hold : f (contents p) + 0 = f new + x := by
    rw [add_zero, h, add_comm]
  have hsum := sum_update_exchange f contents p new hold
  rw [add_zero, add_comm] at hsum
  exact hsum.symm

theorem sum_update_same (h : f new = f (contents p)) :
    ∑ d, f (Function.update contents p new d) = ∑ d, f (contents d) := by
  rw [sum_update_gain f contents p new (x := 0) (by rw [h, add_zero]), add_zero]

end Places

theorem step_balanced [Fintype exit] {c d : Conveyor item exit}
    (h : Step c d) (hc : Balanced c) : Balanced d := by
  unfold Balanced at hc ⊢
  cases h with
  | enter x hentered hwaiting hheld hleft =>
      rw [hentered, hwaiting, hheld, hleft, hc]
      abel
  | take x hentered hwaiting hheld hleft =>
      rw [hentered, hheld, hleft, hc, hwaiting]
      abel
  | leave e x hentered hwaiting hheld hleft hother =>
      rw [hentered, hwaiting, sum_add_of_eq_off hleft hother, hc, hheld]
      abel

theorem steps_balanced [Fintype exit] {c d : Conveyor item exit}
    (h : Steps c d) (hc : Balanced c) : Balanced d := by
  induction h with
  | refl => exact hc
  | tail _ hstep ih => exact step_balanced hstep ih

theorem run_balanced [Fintype exit] {state label : Type*}
    {step : state -> label -> state}
    {view : state -> Conveyor item exit} {I : state -> Prop}
    (hinv : forall s a, I s -> I (step s a))
    (hstep : forall s a, I s -> Steps (view s) (view (step s a)))
    {s : state} (hs : I s) (hbal : Balanced (view s)) (as : List label) :
    Balanced (view (Runs.run step s as)) := by
  have hboth : forall t a, I t ∧ Balanced (view t) ->
      I (step t a) ∧ Balanced (view (step t a)) := by
    rintro t a ⟨ht, hview⟩
    exact ⟨hinv t a ht, steps_balanced (hstep t a ht) hview⟩
  exact (Runs.run_invariant hboth ⟨hs, hbal⟩ as).right

/-!
## Where an item is

When the items that entered are pairwise different, an item that has left is
nowhere else on the conveyor and left only once.
-/

theorem Balanced.left_le [Fintype exit] {c : Conveyor item exit}
    (hc : Balanced c) (e : exit) : c.left e ≤ c.entered := by
  rw [hc]
  exact le_trans
    (Finset.single_le_sum (f := c.left) (fun _ _ => Multiset.zero_le _)
      (Finset.mem_univ e))
    (Multiset.le_add_left _ _)

theorem Balanced.left_nodup [Fintype exit] {c : Conveyor item exit}
    (hc : Balanced c) (hnodup : c.entered.Nodup) (e : exit) :
    (c.left e).Nodup :=
  Multiset.nodup_of_le (hc.left_le e) hnodup

theorem Balanced.not_waiting_or_held [Fintype exit]
    {c : Conveyor item exit} (hc : Balanced c) (hnodup : c.entered.Nodup)
    {e : exit} {x : item} (hx : x ∈ c.left e) :
    x ∉ c.waiting ∧ x ∉ c.held := by
  rw [hc] at hnodup
  have hdisj := (Multiset.nodup_add.mp hnodup).right.right
  have hsum : x ∈ ∑ d, c.left d := by
    have hle : c.left e ≤ ∑ d, c.left d :=
      Finset.single_le_sum (f := c.left) (fun _ _ => Multiset.zero_le _)
        (Finset.mem_univ e)
    exact Multiset.mem_of_le hle hx
  constructor
  · intro hwait
    exact Multiset.disjoint_left.mp hdisj
      (Multiset.mem_add.mpr (Or.inl hwait)) hsum
  · intro hheld
    exact Multiset.disjoint_left.mp hdisj
      (Multiset.mem_add.mpr (Or.inr hheld)) hsum

theorem Balanced.not_left_other [Fintype exit] {c : Conveyor item exit}
    (hc : Balanced c) (hnodup : c.entered.Nodup) {e e' : exit} (hne : e ≠ e')
    {x : item} (hx : x ∈ c.left e) : x ∉ c.left e' := by
  classical
  have hpair : c.left e + c.left e' ≤ ∑ d, c.left d := by
    rw [← Finset.sum_pair hne]
    exact Finset.sum_le_sum_of_subset (Finset.subset_univ _)
  have hle : c.left e + c.left e' ≤ c.entered := by
    rw [hc]
    exact hpair.trans (Multiset.le_add_left _ _)
  have hdisj := (Multiset.nodup_add.mp
    (Multiset.nodup_of_le hle hnodup)).right.right
  exact Multiset.disjoint_left.mp hdisj hx

theorem Balanced.mem_entered_iff [Fintype exit] {c : Conveyor item exit}
    (hc : Balanced c) {x : item} : x ∈ c.entered <->
      (x ∈ c.waiting ∨ x ∈ c.held) ∨ exists e, x ∈ c.left e := by
  rw [hc, Multiset.mem_add, Multiset.mem_add, Multiset.mem_sum]
  simp

end Conveyor
end Foundation
end FarmNetworking
