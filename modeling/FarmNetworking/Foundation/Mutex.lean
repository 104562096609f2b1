import Mathlib.Data.List.Basic
import Mathlib.Logic.Function.Basic

/-!
# Mutexes

A mutex has at most one holder.  A program that uses it marks parts of its threads
as critical.  The mutex does its work if every thread in a critical part holds it,
and it is used properly if nobody else does.
-/

namespace FarmNetworking
namespace Foundation

/-- The threads that have unlocked the mutex without holding it are history. -/
structure Mutex (thread : Type*) where
  holder : Option thread
  foreignUnlocks : List thread

namespace Mutex

variable {thread : Type*}

def free : Mutex thread where
  holder := none
  foreignUnlocks := []

def acquire (m : Mutex thread) (t : thread) : Mutex thread :=
  { m with holder := some t }

def Excludes (m : Mutex thread) (critical : thread -> Bool) : Prop :=
  forall t, critical t = true -> m.holder = some t

/-- Only somebody in a critical part holds the mutex, or has unlocked it. -/
structure Disciplined (m : Mutex thread) (critical : thread -> Bool) :
    Prop where
  inside : forall t, m.holder = some t -> critical t = true
  unlocks : m.foreignUnlocks = []

theorem Excludes.unique {m : Mutex thread} {critical : thread -> Bool}
    (h : Excludes m critical) {t u : thread} (ht : critical t = true)
    (hu : critical u = true) : t = u := by
  have hsame : some t = some u := (h t ht).symm.trans (h u hu)
  exact Option.some.inj hsame

section Critical

variable [DecidableEq thread] {m : Mutex thread} {critical : thread -> Bool}
  {t : thread}

def unlock (m : Mutex thread) (t : thread) : Mutex thread :=
  if m.holder = some t then { m with holder := none }
  else { holder := none, foreignUnlocks := m.foreignUnlocks ++ [t] }

theorem unlock_held (h : m.holder = some t) :
    m.unlock t = { m with holder := none } :=
  if_pos h

/-!
## What happens to the exclusion
-/

theorem acquire_excludes (h : Excludes m critical) (hfree : m.holder = none) :
    Excludes (m.acquire t) (Function.update critical t true) := by
  intro u hu
  by_cases hut : u = t
  · rw [hut]
    rfl
  · rw [Function.update_of_ne hut] at hu
    have hholds := h u hu
    rw [hfree] at hholds
    cases hholds

theorem unlock_excludes (h : Excludes m critical) (ht : critical t = true) :
    Excludes (m.unlock t) (Function.update critical t false) := by
  intro u hu
  by_cases hut : u = t
  · rw [hut, Function.update_self] at hu
    cases hu
  · rw [Function.update_of_ne hut] at hu
    exact absurd (h.unique hu ht) hut

theorem leave_excludes (h : Excludes m critical) :
    Excludes m (Function.update critical t false) := by
  intro u hu
  by_cases hut : u = t
  · rw [hut, Function.update_self] at hu
    cases hu
  · rw [Function.update_of_ne hut] at hu
    exact h u hu

/-!
## What happens to the discipline
-/

theorem acquire_disciplined (h : Disciplined m critical) :
    Disciplined (m.acquire t) (Function.update critical t true) := by
  refine ⟨?_, h.unlocks⟩
  intro u hu
  rw [← Option.some.inj hu]
  exact Function.update_self ..

theorem unlock_disciplined (hexcludes : Excludes m critical)
    (h : Disciplined m critical) (ht : critical t = true) :
    Disciplined (m.unlock t) (Function.update critical t false) := by
  rw [unlock_held (hexcludes t ht)]
  refine ⟨?_, h.unlocks⟩
  intro u hu
  cases hu

theorem leave_not_disciplined (hexcludes : Excludes m critical)
    (ht : critical t = true) :
    ¬ Disciplined m (Function.update critical t false) := by
  intro h
  have hinside := h.inside t (hexcludes t ht)
  rw [Function.update_self] at hinside
  cases hinside

end Critical

end Mutex

end Foundation
end FarmNetworking
