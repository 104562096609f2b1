import Mathlib.Algebra.BigOperators.Group.List.Basic
import Mathlib.Data.List.ReduceOption

/-!
# Reads into one variable

A loop asks several sources in turn and has one variable for all the answers.  A
source that fails leaves in the variable what was there before: the answer of an
earlier source, or the initial content.  A loop that looks at the variable after
each read sees the answers, and in addition one stale value for every failure.
-/

namespace FarmNetworking
namespace Foundation
namespace Reads

variable {value : Type*}

/-- What the variable holds after each of the reads. -/
def contents : value -> List (Option value) -> List value
  | _, [] => []
  | held, none :: rest => held :: contents held rest
  | _, some v :: rest => v :: contents v rest

/-- What the variable holds after the failed reads only. -/
def stale : value -> List (Option value) -> List value
  | _, [] => []
  | held, none :: rest => held :: stale held rest
  | _, some v :: rest => stale v rest

def lastRead (held : value) (reads : List (Option value)) : value :=
  reads.reduceOption.getLast?.getD held

theorem contents_perm (held : value) (reads : List (Option value)) :
    (contents held reads).Perm (reads.reduceOption ++ stale held reads) := by
  induction reads generalizing held with
  | nil => exact List.Perm.refl _
  | cons read rest ih =>
      cases read with
      | none =>
          rw [List.reduceOption_cons_of_none]
          exact ((ih held).cons held).trans List.perm_middle.symm
      | some v =>
          rw [List.reduceOption_cons_of_some, List.cons_append]
          exact (ih v).cons v

theorem sum_contents {count : Type*} [AddCommMonoid count]
    (f : value -> count) (held : value) (reads : List (Option value)) :
    ((contents held reads).map f).sum =
      (reads.reduceOption.map f).sum + ((stale held reads).map f).sum := by
  rw [((contents_perm held reads).map f).sum_eq, List.map_append,
    List.sum_append]

theorem lastRead_none (held : value) (reads : List (Option value)) :
    lastRead held (none :: reads) = lastRead held reads := by
  rw [lastRead, List.reduceOption_cons_of_none]
  rfl

theorem lastRead_some (held v : value) (reads : List (Option value)) :
    lastRead held (some v :: reads) = lastRead v reads := by
  rw [lastRead, List.reduceOption_cons_of_some, List.getLast?_cons]
  rfl

theorem mem_stale_iff {held v : value} {reads : List (Option value)} :
    v ∈ stale held reads <-> exists before after,
      reads = before ++ none :: after ∧ lastRead held before = v := by
  induction reads generalizing held with
  | nil => simp [stale]
  | cons read rest ih =>
      cases read with
      | none =>
          rw [stale, List.mem_cons, ih]
          constructor
          · rintro (rfl | ⟨before, after, rfl, hlast⟩)
            · exact ⟨[], rest, rfl, rfl⟩
            · exact ⟨none :: before, after, rfl, by rw [lastRead_none, hlast]⟩
          · rintro ⟨before, after, hreads, hlast⟩
            cases before with
            | nil => exact Or.inl hlast.symm
            | cons first before =>
                injection hreads with hfirst hrest
                subst hfirst
                rw [lastRead_none] at hlast
                exact Or.inr ⟨before, after, hrest, hlast⟩
      | some w =>
          rw [stale, ih]
          constructor
          · rintro ⟨before, after, rfl, hlast⟩
            exact ⟨some w :: before, after, rfl, by rw [lastRead_some, hlast]⟩
          · rintro ⟨before, after, hreads, hlast⟩
            cases before with
            | nil => cases hreads
            | cons first before =>
                injection hreads with hfirst hrest
                subst hfirst
                rw [lastRead_some] at hlast
                exact ⟨before, after, hrest, hlast⟩

theorem stale_eq_nil_iff {held : value} {reads : List (Option value)} :
    stale held reads = [] <-> none ∉ reads := by
  induction reads generalizing held with
  | nil => simp [stale]
  | cons read rest ih =>
      cases read with
      | none => simp [stale]
      | some v => simp [stale, ih]

end Reads
end Foundation
end FarmNetworking
