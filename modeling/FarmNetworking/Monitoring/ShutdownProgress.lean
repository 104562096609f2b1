import FarmNetworking.Monitoring.Shutdown
import Mathlib.Algebra.Order.BigOperators.Group.List

/-!
# Whether the process ends

The destructor of the context waits for all sockets to be closed.  At that point
`shutDown` is over, and the sockets that are left can only be closed by the
threads that are inside of an operation, when their call throws.
-/

namespace FarmNetworking
namespace Monitoring
namespace IPCHandler
namespace Shutdown

open Foundation Runs
open Socket ZMQHandler

def Stranded (x : System) (slot : Slot) : Prop :=
  OpenFor x.ipc slot ∧ (x.pc slot).uses = false

/-!
## Other threads
-/

section Frame

variable {x x' : System} {slot other : Slot}

theorem user_terminator (h : UserMove x slot x') : x'.terminator = x.terminator := by
  cases h <;> rfl

theorem user_pc (h : UserMove x slot x') (hne : other ≠ slot) :
    x'.pc other = x.pc other := by
  cases h with
  | stays hpc => rfl
  | unconnected hpc hpointer => rfl
  | _ => exact Function.update_of_ne hne _ _

theorem user_openFor (h : UserMove x slot x') (hinv : Inv x) :
    OpenFor x'.ipc other <->
      OpenFor x.ipc other ∧ (x.pc slot = .destroying -> other ≠ slot) := by
  have hkept : forall {pc}, x.pc slot = pc -> pc ≠ .destroying ->
      (OpenFor x.ipc other <->
        OpenFor x.ipc other ∧ (x.pc slot = .destroying -> other ≠ slot)) := by
    intro pc hpc hne
    refine (and_iff_left ?_).symm
    intro hdestroying
    exact absurd (hpc.symm.trans hdestroying) hne
  cases h with
  | stays hpc => exact hkept hpc nofun
  | enters hpc hrunning hpointer => exact hkept hpc nofun
  | unconnected hpc hpointer => exact hkept hpc nofun
  | passes hpc => exact hkept hpc nofun
  | raises hpc hreceives => exact hkept hpc nofun
  | begins s hpc hsame hactive =>
      rcases hpc with hpc | hpc
      · exact hsame.openFor_iff.trans (hkept hpc nofun)
      · exact hsame.openFor_iff.trans (hkept hpc nofun)
  | returns s pc hpc hended hsame hactive hnext =>
      exact hsame.openFor_iff.trans (hkept hpc nofun)
  | throws hpc hended hdestroys => exact hkept hpc nofun
  | prints hpc hended hdestroys => exact hkept hpc nofun
  | lowers hpc => exact hkept hpc nofun
  | destroys hpc =>
      rw [openFor_destroy hinv.registered]
      simp only [hpc, true_implies]
  | clears hpc =>
      exact (openFor_clear (hinv.cleared slot hpc)).trans (hkept hpc nofun)

end Frame

/-!
## Sockets that stay open
-/

section Stranding

variable {x x' : System} {slot other : Slot}

theorem unused_step (h : UserMove x slot x') (hrunning : x.ipc.zmq.running = false)
    (hunused : (x.pc slot).uses = false) : (x'.pc slot).uses = false := by
  have hgone : forall {pc}, x.pc slot = pc -> pc.uses = true -> False := by
    intro pc hpc huses
    rw [hpc, huses] at hunused
    cases hunused
  cases h with
  | stays hpc => exact hunused
  | enters hpc hrun hpointer =>
      rw [hrunning] at hrun
      cases hrun
  | unconnected hpc hpointer => exact hunused
  | passes hpc => exact (hgone hpc rfl).elim
  | raises hpc hreceives => exact (hgone hpc rfl).elim
  | begins s hpc hsame hactive =>
      rcases hpc with hpc | hpc
      · exact (hgone hpc rfl).elim
      · exact (hgone hpc rfl).elim
  | returns s pc hpc hended hsame hactive hnext => exact (hgone hpc rfl).elim
  | throws hpc hended hdestroys => exact (hgone hpc rfl).elim
  | prints hpc hended hdestroys => exact (hgone hpc rfl).elim
  | lowers hpc => exact congrArg Pc.uses (goto_pc ..)
  | destroys hpc => exact (hgone hpc rfl).elim
  | clears hpc => exact congrArg Pc.uses (goto_pc ..)

theorem stopped_of_terminating (hinv : Inv x) (h : x.terminator = .terminating) :
    x.ipc.zmq.running = false := by
  by_contra hrunning
  have hidle := hinv.running (by simpa using hrunning)
  rw [h] at hidle
  cases hidle

theorem stranded_step (hinv : Inv x) (hterminating : x.terminator = .terminating)
    (h : Stranded x slot) (a : Label) :
    (step x a).terminator = .terminating ∧ Stranded (step x a) slot := by
  cases a with
  | user other outcome =>
      have hmove := user_move x other outcome
      change (user x other outcome).terminator = _ ∧ Stranded (user x other outcome) slot
      refine ⟨(user_terminator hmove).trans hterminating, ?_, ?_⟩
      · refine (user_openFor hmove hinv).mpr ⟨h.left, ?_⟩
        rintro hdestroying rfl
        have hunused := h.right
        rw [hdestroying] at hunused
        cases hunused
      · by_cases heq : slot = other
        · subst heq
          exact unused_step hmove (stopped_of_terminating hinv hterminating) h.right
        · rw [user_pc hmove heq]
          exact h.right
  | terminator =>
      have hstays : terminate x = x := by
        rw [terminate, hterminating]
        refine if_neg ?_
        rcases h.left with ⟨socket, _, hopen⟩
        exact List.ne_nil_of_mem hopen
      change (terminate x).terminator = _ ∧ Stranded (terminate x) slot
      rw [hstays]
      exact ⟨hterminating, h⟩

end Stranding

/-!
## Threads that close their sockets
-/

def Pc.distance : Pc -> Nat
  | .running => 5
  | .tested => 4
  | .raised => 3
  | .calling => 2
  | .destroying => 1
  | .outside | .lowering | .clearing => 0

def System.distance (x : System) : Nat :=
  (shutDownOrder.map fun slot => (x.pc slot).distance).sum

section Closing

variable {x x' : System} {slot : Slot}

theorem used_step (h : UserMove x slot x') (hinv : Inv x)
    (hterminating : x.terminator = .terminating) (hopen : OpenFor x.ipc slot)
    (huses : (x.pc slot).uses = true) :
    (x'.pc slot).distance < (x.pc slot).distance ∧
      ((x'.pc slot).uses = true ∨ x.pc slot = .destroying) := by
  have hnow : forall {pc}, x.pc slot = pc -> pc.uses = true := by
    intro pc hpc
    rw [← hpc]
    exact huses
  have hnext : forall {pc next s}, x.pc slot = pc ->
      next.distance < pc.distance -> next.uses = true ∨ pc = .destroying ->
      (({ x.goto slot next with ipc := s } : System).pc slot).distance <
          (x.pc slot).distance ∧
        ((({ x.goto slot next with ipc := s } : System).pc slot).uses = true ∨
          x.pc slot = .destroying) := by
    intro pc next s hpc hless hor
    rw [goto_pc, hpc]
    exact ⟨hless, hor⟩
  cases h with
  | stays hpc => cases hnow hpc
  | enters hpc hrunning hpointer => cases hnow hpc
  | unconnected hpc hpointer =>
      rcases hopen with ⟨socket, hsome, _⟩
      rw [hpointer] at hsome
      cases hsome
  | passes hpc => exact hnext (s := x.ipc) hpc (by decide) (Or.inl rfl)
  | raises hpc hreceives => exact hnext hpc (by decide) (Or.inl rfl)
  | begins s hpc hsame hactive =>
      rcases hpc with hpc | hpc
      · exact hnext hpc (by decide) (Or.inl rfl)
      · exact hnext hpc (by decide) (Or.inl rfl)
  | returns s pc hpc hended hsame hactive hnext =>
      rw [hterminating] at hended
      cases hended
  | throws hpc hended hdestroys =>
      exact hnext (s := x.ipc) hpc (by decide) (Or.inl rfl)
  | prints hpc hended hdestroys =>
      have hsends : receives slot = false := by
        cases slot <;> first | rfl | cases hdestroys
      refine absurd hopen (hinv.visited slot hsends ?_)
      rw [hterminating]
      exact List.not_mem_nil
  | lowers hpc => cases hnow hpc
  | destroys hpc => exact hnext hpc (by decide) (Or.inr rfl)
  | clears hpc => cases hnow hpc

theorem used_distance (h : UserMove x slot x')
    (hless : (x'.pc slot).distance < (x.pc slot).distance) :
    x'.distance < x.distance := by
  refine List.sum_lt_sum _ _ ?_ ⟨slot, mem_shutDownOrder slot, hless⟩
  intro other _
  by_cases heq : other = slot
  · rw [heq]
    exact Nat.le_of_lt hless
  · rw [user_pc h heq]

structure Closing (x : System) : Prop where
  inv : Inv x
  safe : Safe x
  terminating : x.terminator = .terminating
  none : forall slot, ¬ Stranded x slot

theorem closing_step (h : Closing x) (hopen : x.ipc.zmq.openSockets ≠ []) :
    exists a, True ∧ Closing (step x a) ∧ (step x a).distance < x.distance := by
  rcases List.exists_mem_of_ne_nil _ hopen with ⟨socket, hsocket⟩
  rcases h.inv.registered.owned socket hsocket with ⟨slot, hpointer⟩
  have hslot : OpenFor x.ipc slot := ⟨socket, hpointer, hsocket⟩
  have huses : (x.pc slot).uses = true := by
    by_contra hunused
    exact h.none slot ⟨hslot, by simpa using hunused⟩
  have hmove := user_move x slot .again
  rcases used_step hmove h.inv h.terminating hslot huses with ⟨hless, hstill⟩
  refine ⟨.user slot .again, trivial, ⟨?_, ?_, ?_, ?_⟩, used_distance hmove hless⟩
  · exact user_inv hmove h.inv
  · exact user_safe hmove h.inv h.safe
  · exact (user_terminator hmove).trans h.terminating
  · rintro other ⟨hother, hunused⟩
    rcases (user_openFor hmove h.inv).mp hother with ⟨hbefore, hkept⟩
    change ((user x slot .again).pc other).uses = false at hunused
    by_cases heq : other = slot
    · rw [heq] at hunused hkept
      rcases hstill with hused | hdestroying
      · rw [hunused] at hused
        cases hused
      · exact hkept hdestroying rfl
    · rw [user_pc hmove heq] at hunused
      exact h.none other ⟨hbefore, hunused⟩

theorem closing_finishes (h : Closing x) :
    exists more, (run step x more).terminator = .finished := by
  rcases exists_run step (A := fun _ => True) (I := Closing)
    (G := fun x => Closing x ∧ x.ipc.zmq.openSockets = []) System.distance
    (fun y hy hgoal => closing_step hy fun hclosed => hgoal ⟨hy, hclosed⟩) h
    with ⟨as, _, _, hclosing, hclosed⟩
  refine ⟨as ++ [.terminator], ?_⟩
  rw [run_append]
  change (terminate (run step x as)).terminator = _
  rw [terminate, hclosing.terminating]
  exact congrArg System.terminator (if_pos hclosed)

end Closing

/--
When the destructor has begun, the process can still end exactly if each socket
that is open belongs to a thread inside of an operation.
-/
theorem shutdown_finishes_iff {s : State} (h : Connected s) (as : List Label)
    (hunused : StepsMeet ClosesUnused step (System.initial s) as)
    (hterminating : (run step (System.initial s) as).terminator = .terminating) :
    (exists more, (run step (System.initial s) (as ++ more)).terminator = .finished) <->
      forall slot, ¬ Stranded (run step (System.initial s) as) slot := by
  have hreached : Inv (run step (System.initial s) as) ∧
      Safe (run step (System.initial s) as) :=
    run_invariant_of_stepsMeet (I := fun x => Inv x ∧ Safe x)
      (fun x a hx ha =>
        ⟨step_inv x a hx.left, (step_safe_iff x a hx.left hx.right).mpr ha⟩)
      ⟨initial_inv h, nofun⟩ hunused
  generalize hrun : run step (System.initial s) as = x at *
  constructor
  · rintro ⟨more, hfinished⟩ slot hstranded
    rw [run_append, hrun] at hfinished
    have hstill : Inv (run step x more) ∧
        (run step x more).terminator = .terminating ∧ Stranded (run step x more) slot :=
      run_invariant (I := fun y => Inv y ∧ y.terminator = .terminating ∧ Stranded y slot)
        (fun y a hy => ⟨step_inv y a hy.left,
          stranded_step hy.left hy.right.left hy.right.right a⟩)
        ⟨hreached.left, hterminating, hstranded⟩ more
    rw [hstill.right.left] at hfinished
    cases hfinished
  · intro hnone
    rcases closing_finishes ⟨hreached.left, hreached.right, hterminating, hnone⟩
      with ⟨more, hmore⟩
    refine ⟨more, ?_⟩
    rw [run_append, hrun]
    exact hmore

/-- A process that has received a state before `Stop` does not end. -/
theorem shutdown_finishes_never :
    ¬ exists more, (run step (System.initial bound)
      (List.replicate 5 (.user .stateReceiver (.message [2, 0, 0, 0])) ++
        List.replicate 13 .terminator ++ more)).terminator = .finished := by
  intro hfinishes
  have hnone := (shutdown_finishes_iff bound_connected _ (by decide) (by decide)).mp
    hfinishes
  exact hnone .stateReceiver ⟨⟨0, by decide, by decide⟩, by decide⟩

end Shutdown
end IPCHandler
end Monitoring
end FarmNetworking
