import Mathlib.Data.List.Basic

/-!
# Runs of labelled systems

A system is given by a step function that takes a label.  The label carries
everything the system does not decide itself: which thread moves next, what a
caller passes, what a library call returns.  A run is then a list of labels, and
a statement about all interleavings is a statement about all lists.

Besides invariants this module relates a property that holds all along a run to
a condition on the single steps of that run.
-/

namespace FarmNetworking
namespace Foundation
namespace Runs

variable {state label : Type*}

def run (step : state -> label -> state) : state -> List label -> state
  | s, [] => s
  | s, a :: rest => run step (step s a) rest

/-- The property holds in every state of the run, the first and last included. -/
def Along (P : state -> Prop) (step : state -> label -> state) :
    state -> List label -> Prop
  | s, [] => P s
  | s, a :: rest => P s ∧ Along P step (step s a) rest

/-- Every step of the run meets a condition on its label and the state before. -/
def StepsMeet (C : state -> label -> Prop) (step : state -> label -> state) :
    state -> List label -> Prop
  | _, [] => True
  | s, a :: rest => C s a ∧ StepsMeet C step (step s a) rest

instance StepsMeet.decidable {C : state -> label -> Prop}
    [hC : forall s a, Decidable (C s a)] {step : state -> label -> state} :
    forall (s : state) (as : List label), Decidable (StepsMeet C step s as)
  | _, [] => instDecidableTrue
  | s, a :: rest =>
      haveI : Decidable (StepsMeet C step (step s a) rest) :=
        StepsMeet.decidable (step s a) rest
      inferInstanceAs (Decidable (C s a ∧ StepsMeet C step (step s a) rest))

section Lemmas

variable {step : state -> label -> state} {I P : state -> Prop}
  {C : state -> label -> Prop}

@[simp] theorem run_nil (s : state) : run step s [] = s := rfl

@[simp] theorem run_cons (s : state) (a : label) (rest : List label) :
    run step s (a :: rest) = run step (step s a) rest := rfl

theorem run_append (s : state) (as bs : List label) :
    run step s (as ++ bs) = run step (run step s as) bs := by
  induction as generalizing s with
  | nil => rfl
  | cons a as ih => exact ih (step s a)

theorem stepsMeet_append (s : state) (as bs : List label) :
    StepsMeet C step s (as ++ bs) <->
      StepsMeet C step s as ∧ StepsMeet C step (run step s as) bs := by
  induction as generalizing s with
  | nil => simp [StepsMeet]
  | cons a as ih => simp only [List.cons_append, StepsMeet, run_cons, ih, and_assoc]

theorem stepsMeet_of_mem {as : List label} (h : forall a, a ∈ as -> forall s, C s a)
    (s : state) : StepsMeet C step s as := by
  induction as generalizing s with
  | nil => exact trivial
  | cons a as ih =>
      exact ⟨h a (List.mem_cons_self ..) s,
        ih (fun b hb => h b (List.mem_cons_of_mem a hb)) (step s a)⟩

theorem stepsMeet_of_invariant (hstep : forall s a, I s -> I (step s a))
    (hC : forall s a, I s -> C s a) {s : state} (hs : I s) (as : List label) :
    StepsMeet C step s as := by
  induction as generalizing s with
  | nil => exact trivial
  | cons a as ih => exact ⟨hC s a hs, ih (hstep s a hs)⟩

theorem run_invariant (hstep : forall s a, I s -> I (step s a))
    {s : state} (hs : I s) (as : List label) : I (run step s as) := by
  induction as generalizing s with
  | nil => exact hs
  | cons a as ih => exact ih (hstep s a hs)

theorem run_invariant_of_stepsMeet
    (hstep : forall s a, I s -> C s a -> I (step s a))
    {s : state} (hs : I s) {as : List label}
    (hmeet : StepsMeet C step s as) : I (run step s as) := by
  induction as generalizing s with
  | nil => exact hs
  | cons a as ih => exact ih (hstep s a hs hmeet.left) hmeet.right

theorem along_of_stepsMeet (hstep : forall s a, I s -> C s a -> I (step s a))
    (hP : forall s, I s -> P s) {s : state} (hs : I s) {as : List label}
    (hmeet : StepsMeet C step s as) : Along P step s as := by
  induction as generalizing s with
  | nil => exact hP s hs
  | cons a as ih =>
      exact ⟨hP s hs, ih (hstep s a hs hmeet.left) hmeet.right⟩

theorem along_run {s : state} {as : List label} (h : Along P step s as) :
    P (run step s as) := by
  induction as generalizing s with
  | nil => exact h
  | cons a as ih => exact ih h.right

/--
If, in good states, one step preserves the property exactly when it meets the
condition, then the property holds along a run exactly when all its steps do.
-/
theorem along_iff_stepsMeet (hinv : forall s a, I s -> I (step s a))
    (hstep : forall s a, I s -> P s -> (P (step s a) <-> C s a))
    {s : state} (hs : I s) (hP : P s) (as : List label) :
    Along P step s as <-> StepsMeet C step s as := by
  induction as generalizing s with
  | nil => exact ⟨fun _ => trivial, fun _ => hP⟩
  | cons a as ih =>
      constructor
      · rintro ⟨_, hrest⟩
        have hnext : P (step s a) := by
          cases as with
          | nil => exact hrest
          | cons b bs => exact hrest.left
        exact ⟨(hstep s a hs hP).mp hnext,
          (ih (hinv s a hs) hnext).mp hrest⟩
      · rintro ⟨hC, hrest⟩
        have hnext : P (step s a) := (hstep s a hs hP).mpr hC
        exact ⟨hP, (ih (hinv s a hs) hnext).mpr hrest⟩

/--
A second system follows the first if it keeps up with each step, either by a step
with the same label or by none.  It then follows the runs, with part of the labels.
-/
theorem exists_followed_run {state' label' : Type*} {step' : state' -> label' -> state'}
    {R : state -> state' -> Prop} {embed : label' -> label}
    (hstep : forall s t a, R s t -> R (step s a) t ∨
      exists b, a = embed b ∧ R (step s a) (step' t b))
    {s : state} {t : state'} (h : R s t) (as : List label) :
    exists bs, (bs.map embed).Sublist as ∧ R (run step s as) (run step' t bs) := by
  induction as generalizing s t with
  | nil => exact ⟨[], List.Sublist.refl [], h⟩
  | cons a as ih =>
      rcases hstep s t a h with hstay | ⟨b, rfl, hfollow⟩
      · rcases ih hstay with ⟨bs, hsub, hrun⟩
        exact ⟨bs, hsub.cons a, hrun⟩
      · rcases ih hfollow with ⟨bs, hsub, hrun⟩
        exact ⟨b :: bs, hsub.cons_cons (embed b), hrun⟩

/--
A system that can always take a step towards a goal, out of the steps of a kind,
gets there with no more of them than the distance says.
-/
theorem exists_run (step : state -> label -> state) {A : label -> Prop}
    {G : state -> Prop} (distance : state -> Nat)
    (hstep : forall s, I s -> ¬ G s ->
      exists a, A a ∧ I (step s a) ∧ distance (step s a) < distance s)
    {s : state} (hs : I s) :
    exists as, as.length ≤ distance s ∧ (forall a, a ∈ as -> A a) ∧
      G (run step s as) := by
  induction hd : distance s using Nat.strongRecOn generalizing s with
  | ind d ih =>
      by_cases hgoal : G s
      · exact ⟨[], Nat.zero_le d, nofun, hgoal⟩
      · rcases hstep s hs hgoal with ⟨a, ha, hnext, hless⟩
        rw [hd] at hless
        rcases ih (distance (step s a)) hless hnext rfl with
          ⟨as, hlength, hkind, hreach⟩
        refine ⟨a :: as, ?_, List.forall_mem_cons.mpr ⟨ha, hkind⟩, hreach⟩
        exact Nat.succ_le_of_lt (Nat.lt_of_le_of_lt hlength hless)

theorem exists_replicate {a : label} {goal : state -> Prop}
    (distance : state -> Nat)
    (hstep : forall s, I s -> ¬ goal s ->
      I (step s a) ∧ distance (step s a) < distance s)
    {s : state} (hs : I s) :
    exists k, k ≤ distance s ∧ goal (run step s (List.replicate k a)) := by
  rcases exists_run step (A := fun b => b = a) distance
    (fun s hs hgoal => ⟨a, rfl, hstep s hs hgoal⟩) hs with
    ⟨as, hlength, hsame, hreach⟩
  refine ⟨as.length, hlength, ?_⟩
  rwa [← List.eq_replicate_of_mem hsame]

theorem run_replicate_invariant {a : label} (hstep : forall s, I s -> I (step s a))
    {s : state} (hs : I s) (k : Nat) : I (run step s (List.replicate k a)) := by
  induction k generalizing s with
  | zero => exact hs
  | succ k ih => exact ih (hstep s hs)

end Lemmas

end Runs
end Foundation
end FarmNetworking
