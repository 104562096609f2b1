import FarmNetworking.Foundation.Runs
import Mathlib.Data.Set.Insert
import Mathlib.Logic.Relation

/-!
# Pointers and the resources they own

A component keeps its resources in a fixed set of places, each of which holds a
pointer or null.  A resource is issued once, is live until it is closed, and can
be closed only through a place that designates it.

Two things can go wrong.  A place may keep a pointer to a closed resource, or a
live resource may lose the place that designates it.  This module says which
operations on such a table do the one or the other.
-/

namespace FarmNetworking
namespace Foundation

structure Table (place resource : Type*) where
  pointer : place -> Option resource
  live : Set resource
  issued : Set resource

namespace Table

variable {place resource : Type*} [DecidableEq place]

def assign (t : Table place resource) (p : place) (r : resource) :
    Table place resource where
  pointer := Function.update t.pointer p (some r)
  live := insert r t.live
  issued := insert r t.issued

/-- The resource of a place is closed and the pointer stays. -/
def close (t : Table place resource) (p : place) : Table place resource :=
  { t with live := {r | r ∈ t.live ∧ t.pointer p ≠ some r} }

/-- The resource of a place is closed and the pointer becomes null. -/
def release (t : Table place resource) (p : place) : Table place resource :=
  { t.close p with pointer := Function.update t.pointer p none }

/--
A series of assignments of new resources to the listed places.  Resources may be
issued beside them that no place ever holds.
-/
inductive Assigns : List place -> Table place resource ->
    Table place resource -> Prop where
  | nil {t t' : Table place resource} : t'.pointer = t.pointer ->
      t'.live = t.live -> t.issued ⊆ t'.issued -> Assigns [] t t'
  | cons {t t' : Table place resource} {p : place} {ps : List place}
      (r : resource) : r ∉ t.issued -> Assigns ps (t.assign p r) t' ->
      Assigns (p :: ps) t t'

theorem Assigns.refl (t : Table place resource) : Assigns [] t t :=
  Assigns.nil rfl rfl Set.Subset.rfl

/-!
## Well-formed tables

Only issued resources are live or designated, and no two places designate the
same one.
-/

structure WellFormed (t : Table place resource) : Prop where
  live_issued : forall r, r ∈ t.live -> r ∈ t.issued
  pointer_issued : forall p r, t.pointer p = some r -> r ∈ t.issued
  unique : forall p q r, t.pointer p = some r -> t.pointer q = some r -> p = q

section WellFormed

variable {t t' : Table place resource}

theorem pointer_assign_of_ne {p q : place} (r : resource) (hne : q ≠ p) :
    (t.assign p r).pointer q = t.pointer q :=
  Function.update_of_ne hne ..

theorem pointer_release_eq_some {p q : place} {r : resource} :
    (t.release p).pointer q = some r <-> q ≠ p ∧ t.pointer q = some r := by
  change Function.update t.pointer p none q = some r <-> _
  by_cases hq : q = p
  · subst hq
    simp
  · rw [Function.update_of_ne hq]
    simp [hq]

@[simp] theorem release_release (t : Table place resource) (p : place) :
    (t.release p).release p = t.release p := by
  simp [release, close]

theorem assign_wellFormed (h : t.WellFormed) (p : place) {r : resource}
    (hr : r ∉ t.issued) : (t.assign p r).WellFormed := by
  have hcases : forall q x, (t.assign p r).pointer q = some x ->
      (q = p ∧ x = r) ∨ (q ≠ p ∧ x ≠ r ∧ t.pointer q = some x) := by
    intro q x hq
    by_cases hqp : q = p
    · subst hqp
      change Function.update t.pointer q (some r) q = some x at hq
      rw [Function.update_self] at hq
      exact Or.inl ⟨rfl, (Option.some.inj hq).symm⟩
    · rw [pointer_assign_of_ne r hqp] at hq
      refine Or.inr ⟨hqp, ?_, hq⟩
      intro hx
      exact hr (hx ▸ h.pointer_issued q x hq)
  constructor
  · intro x hx
    rcases Set.mem_insert_iff.mp hx with hnew | hold
    · exact Set.mem_insert_iff.mpr (Or.inl hnew)
    · exact Set.mem_insert_of_mem r (h.live_issued x hold)
  · intro q x hq
    rcases hcases q x hq with ⟨_, hx⟩ | ⟨_, _, hx⟩
    · exact Set.mem_insert_iff.mpr (Or.inl hx)
    · exact Set.mem_insert_of_mem r (h.pointer_issued q x hx)
  · intro q q' x hq hq'
    rcases hcases q x hq with ⟨hqp, hx⟩ | ⟨_, hx, hold⟩
    · rcases hcases q' x hq' with ⟨hqp', _⟩ | ⟨_, hx', _⟩
      · rw [hqp, hqp']
      · exact absurd hx hx'
    · rcases hcases q' x hq' with ⟨_, hx'⟩ | ⟨_, _, hold'⟩
      · exact absurd hx' hx
      · exact h.unique q q' x hold hold'

omit [DecidableEq place] in
theorem close_wellFormed (h : t.WellFormed) (p : place) :
    (t.close p).WellFormed :=
  ⟨fun r hr => h.live_issued r hr.left, h.pointer_issued, h.unique⟩

theorem release_wellFormed (h : t.WellFormed) (p : place) :
    (t.release p).WellFormed := by
  constructor
  · intro r hr
    exact h.live_issued r hr.left
  · intro q r hq
    exact h.pointer_issued q r (pointer_release_eq_some.mp hq).right
  · intro q q' r hq hq'
    exact h.unique q q' r (pointer_release_eq_some.mp hq).right
      (pointer_release_eq_some.mp hq').right

theorem Assigns.wellFormed {ps : List place} (hassigns : Assigns ps t t')
    (h : t.WellFormed) : t'.WellFormed := by
  induction hassigns with
  | nil hpointer hlive hissued =>
      constructor
      · intro r hr
        exact hissued (h.live_issued r (hlive ▸ hr))
      · intro p r hp
        exact hissued (h.pointer_issued p r (hpointer ▸ hp))
      · rw [hpointer]
        exact h.unique
  | cons r hr _ ih => exact ih (assign_wellFormed h _ hr)

/-!
## What a series of assignments leaves behind
-/

theorem Assigns.pointer_of_notMem {ps : List place}
    (hassigns : Assigns ps t t') {p : place} (hp : p ∉ ps) :
    t'.pointer p = t.pointer p := by
  induction hassigns with
  | nil hpointer hlive hissued => rw [hpointer]
  | cons r hr _ ih =>
      rcases List.ne_and_not_mem_of_not_mem_cons hp with ⟨hne, hrest⟩
      rw [ih hrest, pointer_assign_of_ne r hne]

theorem Assigns.live_subset {ps : List place} (hassigns : Assigns ps t t') :
    t.live ⊆ t'.live := by
  induction hassigns with
  | nil hpointer hlive hissued => rw [hlive]
  | cons r hr _ ih => exact (Set.subset_insert r _).trans ih

theorem Assigns.pointer_of_mem {ps : List place} (hassigns : Assigns ps t t')
    {p : place} (hp : p ∈ ps) :
    exists r, t'.pointer p = some r ∧ r ∈ t'.live ∧ r ∉ t.issued := by
  induction hassigns with
  | nil hpointer hlive hissued => cases hp
  | cons r hr hrest ih =>
      rename_i t t' q ps
      by_cases hps : p ∈ ps
      · rcases ih hps with ⟨x, hx, hlive, hnew⟩
        exact ⟨x, hx, hlive, fun hold => hnew (Set.mem_insert_of_mem r hold)⟩
      · have hpq : p = q := (List.mem_cons.mp hp).resolve_right hps
        refine ⟨r, ?_, hrest.live_subset (Set.mem_insert r _), hr⟩
        rw [hrest.pointer_of_notMem hps, hpq]
        exact Function.update_self ..

end WellFormed

/-!
## Dangling pointers
-/

def NullOrLive (t : Table place resource) : Prop :=
  forall p r, t.pointer p = some r -> r ∈ t.live

section NullOrLive

variable {t t' : Table place resource}

theorem Assigns.nullOrLive {ps : List place} (hassigns : Assigns ps t t')
    (h : t.NullOrLive) : t'.NullOrLive := by
  intro p r hp
  by_cases hmem : p ∈ ps
  · rcases hassigns.pointer_of_mem hmem with ⟨x, hx, hlive, _⟩
    rw [hx] at hp
    rw [← Option.some.inj hp]
    exact hlive
  · rw [hassigns.pointer_of_notMem hmem] at hp
    exact hassigns.live_subset (h p r hp)

theorem release_nullOrLive (hwell : t.WellFormed) (h : t.NullOrLive)
    (p : place) : (t.release p).NullOrLive := by
  intro q r hq
  rcases pointer_release_eq_some.mp hq with ⟨hne, hold⟩
  refine ⟨h q r hold, ?_⟩
  intro hp
  exact hne (hwell.unique q p r hold hp)

end NullOrLive

/-!
## Orphans
-/

def Orphan (t : Table place resource) (r : resource) : Prop :=
  r ∈ t.live ∧ forall p, t.pointer p ≠ some r

def NoOrphan (t : Table place resource) : Prop :=
  forall r, ¬ t.Orphan r

section Orphan

variable {t t' : Table place resource}

omit [DecidableEq place] in
theorem noOrphan_iff (hwell : t.WellFormed) : t.NoOrphan <->
    forall r, r ∈ t.live -> ∃! p, t.pointer p = some r := by
  constructor
  · intro h r hr
    by_contra hnone
    refine h r ⟨hr, ?_⟩
    intro p hp
    exact hnone ⟨p, hp, fun q hq => hwell.unique q p r hq hp⟩
  · intro h r horphan
    rcases h r horphan.left with ⟨p, hp, _⟩
    exact horphan.right p hp

omit [DecidableEq place] in
theorem close_orphan_iff {p : place} {r : resource} :
    (t.close p).Orphan r <-> t.Orphan r := by
  constructor
  · intro h
    exact ⟨h.left.left, h.right⟩
  · intro h
    exact ⟨⟨h.left, h.right p⟩, h.right⟩

theorem release_orphan_iff {p : place} {r : resource} :
    (t.release p).Orphan r <-> t.Orphan r := by
  constructor
  · intro h
    refine ⟨h.left.left, ?_⟩
    intro q hq
    by_cases hqp : q = p
    · exact h.left.right (hqp ▸ hq)
    · exact h.right q (pointer_release_eq_some.mpr ⟨hqp, hq⟩)
  · intro h
    refine ⟨⟨h.left, h.right p⟩, ?_⟩
    intro q hq
    exact h.right q (pointer_release_eq_some.mp hq).right

theorem assign_orphan_iff (hwell : t.WellFormed) {p : place} {r x : resource}
    (hr : r ∉ t.issued) : (t.assign p r).Orphan x <->
      t.Orphan x ∨ (t.pointer p = some x ∧ x ∈ t.live) := by
  constructor
  · intro h
    have hxr : x ≠ r := by
      intro hx
      exact h.right p (hx ▸ Function.update_self ..)
    have hlive : x ∈ t.live :=
      (Set.mem_insert_iff.mp h.left).resolve_left hxr
    by_cases hp : t.pointer p = some x
    · exact Or.inr ⟨hp, hlive⟩
    · refine Or.inl ⟨hlive, ?_⟩
      intro q hq
      by_cases hqp : q = p
      · exact hp (hqp ▸ hq)
      · exact h.right q ((pointer_assign_of_ne r hqp).trans hq)
  · intro h
    have hlive : x ∈ t.live := h.elim And.left And.right
    have hxr : x ≠ r := by
      intro hx
      exact hr (hx ▸ hwell.live_issued x hlive)
    refine ⟨Set.mem_insert_of_mem r hlive, ?_⟩
    intro q hq
    by_cases hqp : q = p
    · subst hqp
      change Function.update t.pointer q (some r) q = some x at hq
      rw [Function.update_self] at hq
      exact hxr (Option.some.inj hq).symm
    · rw [pointer_assign_of_ne r hqp] at hq
      rcases h with horphan | ⟨hp, _⟩
      · exact horphan.right q hq
      · exact hqp (hwell.unique q p x hq hp)

/--
A series of assignments leaves no orphan exactly if there was none before and
none of the places designated a live resource.
-/
theorem Assigns.noOrphan_iff {ps : List place} (hassigns : Assigns ps t t')
    (hwell : t.WellFormed) (hps : ps.Nodup) : t'.NoOrphan <->
      t.NoOrphan ∧
        forall p, p ∈ ps -> forall r, t.pointer p = some r -> r ∉ t.live := by
  induction hassigns with
  | nil hpointer hlive hissued => simp [NoOrphan, Orphan, hpointer, hlive]
  | cons r hr hrest ih =>
      rename_i t t' p ps
      rcases List.nodup_cons.mp hps with ⟨hp, hnodup⟩
      rw [ih (assign_wellFormed hwell p hr) hnodup]
      have hfirst : (t.assign p r).NoOrphan <->
          t.NoOrphan ∧ forall x, t.pointer p = some x -> x ∉ t.live := by
        simp only [NoOrphan, assign_orphan_iff hwell hr, not_or, not_and,
          forall_and]
      have hothers : (forall q, q ∈ ps -> forall x,
            (t.assign p r).pointer q = some x -> x ∉ (t.assign p r).live) <->
          forall q, q ∈ ps -> forall x,
            t.pointer q = some x -> x ∉ t.live := by
        refine forall_congr' fun q => forall_congr' fun hq => ?_
        have hqp : q ≠ p := fun h => hp (h ▸ hq)
        rw [pointer_assign_of_ne r hqp]
        refine forall_congr' fun x => forall_congr' fun hx => ?_
        have hxr : x ≠ r := by
          intro h
          exact hr (h ▸ hwell.pointer_issued q x hx)
        exact not_congr ((Set.mem_insert_iff).trans (or_iff_right hxr))
      rw [hfirst, hothers, and_assoc]
      refine and_congr Iff.rfl ?_
      constructor
      · rintro ⟨hhead, htail⟩ q hq
        rcases List.mem_cons.mp hq with heq | hmem
        · rw [heq]
          exact hhead
        · exact htail q hmem
      · intro h
        exact ⟨h p (List.mem_cons_self ..),
          fun q hq => h q (List.mem_cons_of_mem p hq)⟩

end Orphan

end Table
end Foundation
end FarmNetworking
