import FarmNetworking.Socket.ConnectMutex

/-!
# Waiting for the other side

`ConnectInproc` polls `boundAddresses_` every half a second, and the thread that
binds the address has to get the same mutex to put it there.  Neither can keep the
other one out: a thread in a critical part always leaves it by itself, as long as
no `connect` throws.
-/

namespace FarmNetworking
namespace Socket
namespace Inproc

open Foundation Runs
open ZMQHandler

def Pc.waits : Pc -> Option (SocketId × String)
  | .locking socket address => some (socket, address)
  | .looking socket address => some (socket, address)
  | .unlocking socket address => some (socket, address)
  | .sleeping socket address => some (socket, address)
  | .idle | .binding _ _ | .guarding _ _ | .inserting _ _ | .unguarding
  | .connecting _ _ | .leaving => none

def Pc.announces : Pc -> Option String
  | .binding _ address => some address
  | .guarding _ address => some address
  | .inserting _ address => some address
  | .idle | .unguarding | .locking _ _ | .looking _ _ | .unlocking _ _
  | .sleeping _ _ | .connecting _ _ | .leaving => none

def Pc.release : Pc -> Nat
  | .looking _ _ => 3
  | .inserting _ _ | .connecting _ _ => 2
  | .unguarding | .unlocking _ _ | .leaving => 1
  | .idle | .binding _ _ | .guarding _ _ | .locking _ _ | .sleeping _ _ => 0

def Pc.approach : Pc -> Nat
  | .unlocking _ _ => 3
  | .binding _ _ | .sleeping _ _ => 2
  | .guarding _ _ | .locking _ _ => 1
  | .idle | .inserting _ _ | .unguarding | .looking _ _ | .connecting _ _
  | .leaving => 0

theorem approach_le (pc : Pc) : pc.approach ≤ 3 := by
  cases pc <;> simp [Pc.approach]

theorem release_le (pc : Pc) : pc.release ≤ 3 := by
  cases pc <;> simp [Pc.release]

section System

variable {thread : Type*}

def Announced (s : State thread) (address : String) : Prop :=
  address ∈ s.boundAddresses ∨ exists u, (s.pc u).announces = some address

/-- No thread begins another call. -/
def Proceeds (a : Action thread) : Prop :=
  exists u error, a = .proceed u error

structure Orderly (s : State thread) : Prop where
  excludes : Mutex.Excludes s.connectMutex s.critical
  released : MutexReleased s

def holderDistance (s : State thread) : Nat :=
  match s.connectMutex.holder with
  | none => 0
  | some v => (s.pc v).release

/-- Getting the mutex costs less than being in front of it. -/
def distance (u : thread) (s : State thread) : Nat :=
  4 * (s.pc u).approach + holderDistance s

theorem distance_le (u : thread) (s : State thread) : distance u s ≤ 15 := by
  have happroach := approach_le (s.pc u)
  have hholder : holderDistance s ≤ 3 := by
    unfold holderDistance
    split
    · exact Nat.zero_le 3
    · exact release_le _
  unfold distance
  lia

variable [DecidableEq thread] {s : State thread} {t u w : thread}
  {socket : SocketId} {address : String} {error : Option Errno}

/-!
## What a step of a call changes
-/

theorem step_orderly (h : Orderly s) (u : thread) :
    Orderly (step s (.proceed u none)) :=
  ⟨step_excludes s _ h.excludes,
    (step_mutexReleased s _ h.excludes h.released).mpr fun hthrows => hthrows⟩

inductive Move (s : State thread) (u : thread) : State thread -> Prop where
  | stays : Move s u s
  | goes (s' : State thread) (pc pc' : Pc) : s.pc u = pc ->
      s'.pc = Function.update s.pc u pc' ->
      s'.boundAddresses = s.boundAddresses ->
      (forall a, pc'.announces = some a -> pc.announces = some a) ->
      (forall socket a, pc.waits = some (socket, a) ->
        pc'.waits = some (socket, a) ∨
          pc' = .connecting socket a ∧ a ∈ s.boundAddresses) -> Move s u s'
  | inserts (socket : SocketId) (a : String) : s.pc u = .inserting socket a -> Move s u
      { s.goto u .unguarding with boundAddresses := s.boundAddresses.insert a }

theorem lock_move {pc pc' : Pc} (hpc : s.pc u = pc)
    (hannounces : forall a, pc'.announces = some a -> pc.announces = some a)
    (hwaits : forall socket a, pc.waits = some (socket, a) ->
      pc'.waits = some (socket, a)) : Move s u (s.lock u pc') := by
  unfold State.lock
  split
  · exact Move.stays
  · exact Move.goes _ pc pc' hpc rfl rfl hannounces
      fun socket a h => Or.inl (hwaits socket a h)

theorem proceed_move (s : State thread) (u : thread) (error : Option Errno) :
    Move s u (proceed s u error) := by
  unfold proceed
  cases hpc : s.pc u with
  | idle => exact Move.stays
  | binding socket address =>
      cases error with
      | none => exact Move.goes _ _ _ hpc rfl rfl (fun _ h => h) nofun
      | some e => exact Move.goes _ _ .idle hpc rfl rfl nofun nofun
  | guarding socket address => exact lock_move hpc (fun _ h => h) nofun
  | inserting socket address => exact Move.inserts socket address hpc
  | unguarding => exact Move.goes _ _ .idle hpc rfl rfl nofun nofun
  | locking socket address => exact lock_move hpc nofun (fun _ _ h => h)
  | looking socket address =>
      dsimp only
      split
      · next hbound =>
          refine Move.goes _ _ _ hpc rfl rfl nofun ?_
          rintro _ _ ⟨⟩
          exact Or.inr ⟨rfl, hbound⟩
      · exact Move.goes _ _ _ hpc rfl rfl nofun (fun _ _ h => Or.inl h)
  | unlocking socket address =>
      exact Move.goes _ _ _ hpc rfl rfl nofun (fun _ _ h => Or.inl h)
  | sleeping socket address =>
      exact Move.goes _ _ _ hpc rfl rfl nofun (fun _ _ h => Or.inl h)
  | connecting socket address =>
      cases error with
      | none => exact Move.goes _ _ .leaving hpc rfl rfl nofun nofun
      | some e => exact Move.goes _ _ .idle hpc rfl rfl nofun nofun
  | leaving => exact Move.goes _ _ .idle hpc rfl rfl nofun nofun

section Moves

variable {s' : State thread}

theorem move_pc (h : Move s u s') (hne : w ≠ u) : s'.pc w = s.pc w := by
  cases h with
  | stays => rfl
  | goes _ pc pc' hpc hpc' hbound hannounces hwaits =>
      rw [hpc', Function.update_of_ne hne]
  | inserts socket a hpc => exact Function.update_of_ne hne _ _

theorem move_mem (h : Move s u s') :
    address ∈ s'.boundAddresses ->
      address ∈ s.boundAddresses ∨
        exists socket, s.pc u = .inserting socket address := by
  intro hmem
  cases h with
  | stays => exact Or.inl hmem
  | goes _ pc pc' hpc hpc' hbound hannounces hwaits =>
      rw [hbound] at hmem
      exact Or.inl hmem
  | inserts socket a hpc =>
      rcases List.mem_insert_iff.mp hmem with heq | hold
      · rw [heq]
        exact Or.inr ⟨socket, hpc⟩
      · exact Or.inl hold

theorem move_kept (h : Move s u s') (hmem : address ∈ s.boundAddresses) :
    address ∈ s'.boundAddresses := by
  cases h with
  | stays => exact hmem
  | goes _ pc pc' hpc hpc' hbound hannounces hwaits =>
      rw [hbound]
      exact hmem
  | inserts socket a hpc => exact List.mem_insert_of_mem hmem

theorem move_announces (h : Move s u s')
    (hw : (s'.pc w).announces = some address) :
    (s.pc w).announces = some address := by
  by_cases heq : w = u
  · subst heq
    cases h with
    | stays => exact hw
    | goes _ pc pc' hpc hpc' hbound hannounces hwaits =>
        rw [hpc', Function.update_self] at hw
        rw [hpc]
        exact hannounces address hw
    | inserts socket a hpc =>
        change (Function.update s.pc w .unguarding w).announces = _ at hw
        rw [Function.update_self] at hw
        cases hw
  · rwa [move_pc h heq] at hw

theorem move_waits (h : Move s u s')
    (ht : (s.pc t).waits = some (socket, address)) :
    (s'.pc t).waits = some (socket, address) ∨
      s'.pc t = .connecting socket address ∧ address ∈ s.boundAddresses := by
  by_cases heq : t = u
  · subst heq
    cases h with
    | stays => exact Or.inl ht
    | goes _ pc pc' hpc hpc' hbound hannounces hwaits =>
        rw [hpc', Function.update_self]
        rw [hpc] at ht
        exact hwaits socket address ht
    | inserts socket a hpc =>
        rw [hpc] at ht
        cases ht
  · rw [move_pc h heq]
    exact Or.inl ht

theorem move_announced (h : Move s u s') (hs' : Announced s' address) :
    Announced s address := by
  rcases hs' with hmem | ⟨w, hw⟩
  · rcases move_mem h hmem with hold | ⟨socket, hinserting⟩
    · exact Or.inl hold
    · exact Or.inr ⟨u, by rw [hinserting]; rfl⟩
  · exact Or.inr ⟨w, move_announces h hw⟩

end Moves

/-!
## Getting on
-/

section Progress

variable {s' : State thread} {v : thread} {pc : Pc}

theorem held_goto (hv : s.connectMutex.holder = some v)
    (hpc : s'.pc = Function.update s.pc v pc)
    (hmutex : s'.connectMutex = s.connectMutex) :
    holderDistance s' = pc.release := by
  rw [holderDistance, hmutex, hv, hpc]
  dsimp only
  rw [Function.update_self]

theorem free_goto (hu : (s.pc u).critical = false) (h : Orderly s)
    (hpc : s'.pc = Function.update s.pc u pc)
    (hmutex : s'.connectMutex = s.connectMutex) :
    holderDistance s' = holderDistance s := by
  rw [holderDistance, hmutex, hpc, holderDistance]
  split
  · rfl
  · next v hv =>
      have hne : v ≠ u := by
        rintro rfl
        have hcritical : (s.pc v).critical = true := h.released.held v hv
        rw [hu] at hcritical
        cases hcritical
      rw [Function.update_of_ne hne]

theorem unlock_holderDistance (s : State thread) (u : thread) (pc : Pc) :
    holderDistance (s.unlock u pc) = 0 := by
  have hholder : (s.connectMutex.unlock u).holder = none := by
    unfold Mutex.unlock
    split <;> rfl
  unfold holderDistance State.unlock
  dsimp only
  rw [hholder]

theorem holder_step (h : Orderly s) (hv : s.connectMutex.holder = some v) :
    holderDistance (proceed s v none) < holderDistance s := by
  have hcritical : (s.pc v).critical = true := h.released.held v hv
  have hbefore : holderDistance s = (s.pc v).release := by
    rw [holderDistance, hv]
  have hgoes : forall {s'' : State thread} {pc' : Pc},
      s''.pc = Function.update s.pc v pc' ->
      s''.connectMutex = s.connectMutex -> pc'.release < (s.pc v).release ->
      holderDistance s'' < (s.pc v).release := by
    intro s'' pc' hpc' hmutex hless
    rw [held_goto hv hpc' hmutex]
    exact hless
  have hleaves : forall pc', 0 < (s.pc v).release ->
      holderDistance (s.unlock v pc') < (s.pc v).release := by
    intro pc' hpositive
    rw [unlock_holderDistance]
    exact hpositive
  rw [hbefore]
  unfold proceed
  cases hpc : s.pc v with
  | inserting socket address =>
      rw [hpc] at hgoes
      exact hgoes rfl rfl (Nat.lt_succ_self 1)
  | unguarding =>
      rw [hpc] at hleaves
      exact hleaves _ Nat.zero_lt_one
  | looking socket address =>
      rw [hpc] at hgoes
      dsimp only
      split
      · exact hgoes rfl rfl (Nat.lt_succ_self 2)
      · exact hgoes rfl rfl (Nat.lt_succ_of_lt (Nat.lt_succ_self 1))
  | unlocking socket address =>
      rw [hpc] at hleaves
      exact hleaves _ Nat.zero_lt_one
  | connecting socket address =>
      rw [hpc] at hgoes
      exact hgoes rfl rfl (Nat.lt_succ_self 1)
  | leaving =>
      rw [hpc] at hleaves
      exact hleaves _ Nat.zero_lt_one
  | _ =>
      rw [hpc] at hcritical
      cases hcritical

theorem lock_distance (h : Orderly s) (pc : Pc) (hcritical : (s.pc u).critical = false)
    (hfront : (s.pc u).approach = 1) (hproceed : proceed s u none = s.lock u pc)
    (hnext : pc.approach = 0) (hrelease : pc.release ≤ 3) :
    exists v, distance u (proceed s v none) < distance u s := by
  cases hholder : s.connectMutex.holder with
  | none =>
      refine ⟨u, ?_⟩
      rw [hproceed, State.lock, hholder]
      simp only [distance, holderDistance, hholder, hfront, State.goto,
        Mutex.acquire, Function.update_self, hnext]
      lia
  | some v =>
      refine ⟨v, ?_⟩
      have hne : u ≠ v := by
        rintro rfl
        have hholds : (s.pc u).critical = true := h.released.held u hholder
        rw [hcritical] at hholds
        cases hholds
      have hless := holder_step h hholder
      rw [distance, distance, move_pc (proceed_move s v none) hne]
      lia

theorem approach_step (h : Orderly s)
    (hu : (s.pc u).announces ≠ none ∨ (s.pc u).waits ≠ none)
    (hlooking : forall socket a, s.pc u = .looking socket a ->
      a ∈ s.boundAddresses) :
    exists v, distance u (proceed s v none) < distance u s := by
  -- outside of its critical parts the thread has one step to make by itself
  have hfree : forall pc', (s.pc u).critical = false ->
      (proceed s u none).pc = Function.update s.pc u pc' ->
      (proceed s u none).connectMutex = s.connectMutex ->
      pc'.approach < (s.pc u).approach ->
      distance u (proceed s u none) < distance u s := by
    intro pc' hcritical hpc' hmutex hless
    rw [distance, distance, free_goto hcritical h hpc' hmutex, hpc',
      Function.update_self]
    lia
  -- inside it has the mutex
  have hheld : forall pc', (s.pc u).critical = true ->
      (proceed s u none).pc = Function.update s.pc u pc' ->
      pc'.approach ≤ (s.pc u).approach ->
      distance u (proceed s u none) < distance u s := by
    intro pc' hcritical hpc' hle
    have hless := holder_step h (h.excludes u hcritical)
    rw [distance, distance, hpc', Function.update_self]
    lia
  cases hpc : s.pc u with
  | binding socket address =>
      rw [hpc] at hfree
      exact ⟨u, hfree (.guarding socket address) rfl (by rw [proceed, hpc]; rfl)
        (by rw [proceed, hpc]; rfl) (Nat.lt_succ_self 1)⟩
  | guarding socket address =>
      exact lock_distance h (.inserting socket address) (by rw [hpc]; rfl)
        (by rw [hpc]; rfl) (by rw [proceed, hpc]) rfl (Nat.le_succ 2)
  | inserting socket address =>
      rw [hpc] at hheld
      exact ⟨u, hheld .unguarding rfl (by rw [proceed, hpc]; rfl) (Nat.le_refl 0)⟩
  | locking socket address =>
      exact lock_distance h (.looking socket address) (by rw [hpc]; rfl)
        (by rw [hpc]; rfl) (by rw [proceed, hpc]) rfl (Nat.le_refl 3)
  | looking socket address =>
      rw [hpc] at hheld
      have hbound := hlooking socket address hpc
      exact ⟨u, hheld (.connecting socket address) rfl
        (by simp only [proceed, hpc, if_pos hbound]; rfl) (Nat.le_refl 0)⟩
  | unlocking socket address =>
      rw [hpc] at hheld
      exact ⟨u, hheld (.sleeping socket address) rfl (by rw [proceed, hpc]; rfl)
        (Nat.le_succ 2)⟩
  | sleeping socket address =>
      rw [hpc] at hfree
      exact ⟨u, hfree (.locking socket address) rfl (by rw [proceed, hpc]; rfl)
        (by rw [proceed, hpc]; rfl) (Nat.lt_succ_self 1)⟩
  | idle =>
      rw [hpc] at hu
      rcases hu with hnone | hnone <;> exact absurd rfl hnone
  | unguarding =>
      rw [hpc] at hu
      rcases hu with hnone | hnone <;> exact absurd rfl hnone
  | connecting socket address =>
      rw [hpc] at hu
      rcases hu with hnone | hnone <;> exact absurd rfl hnone
  | leaving =>
      rw [hpc] at hu
      rcases hu with hnone | hnone <;> exact absurd rfl hnone

end Progress

/-!
## Runs
-/

section Runs

variable {actions : List (Action thread)}

theorem announces_kept (v : thread) (hu : (s.pc u).announces = some address) :
    address ∈ (proceed s v none).boundAddresses ∨
      ((proceed s v none).pc u).announces = some address := by
  by_cases heq : u = v
  · subst heq
    unfold proceed
    cases hpc : s.pc u with
    | binding socket a =>
        rw [hpc] at hu
        refine Or.inr ?_
        change (Function.update s.pc u (.guarding socket a) u).announces = _
        rw [Function.update_self]
        exact hu
    | guarding socket a =>
        rw [hpc] at hu
        refine Or.inr ?_
        dsimp only [State.lock]
        split
        · rw [hpc]
          exact hu
        · change (Function.update s.pc u (.inserting socket a) u).announces = _
          rw [Function.update_self]
          exact hu
    | inserting socket a =>
        rw [hpc] at hu
        cases hu
        exact Or.inl List.mem_insert_self
    | _ =>
        rw [hpc] at hu
        cases hu
  · rw [move_pc (proceed_move s v none) heq]
    exact Or.inr hu

theorem run_inserts (h : Orderly s)
    (ht : (s.pc t).waits = some (socket, address))
    (hu : (s.pc u).announces = some address) :
    exists more, more.length ≤ 15 ∧ (forall a, a ∈ more -> Proceeds a) ∧
      Orderly (run step s more) ∧
      ((run step s more).pc t).waits = some (socket, address) ∧
      address ∈ (run step s more).boundAddresses := by
  rcases exists_run step (A := Proceeds)
    (I := fun s => Orderly s ∧ (s.pc t).waits = some (socket, address) ∧
      (address ∈ s.boundAddresses ∨ (s.pc u).announces = some address))
    (G := fun s => Orderly s ∧ (s.pc t).waits = some (socket, address) ∧
      address ∈ s.boundAddresses)
    (distance u) (by
      rintro s ⟨h, ht, hstate⟩ hleft
      have habsent : address ∉ s.boundAddresses := fun hmem => hleft ⟨h, ht, hmem⟩
      have hu := hstate.resolve_left habsent
      have hnone : (s.pc u).announces ≠ none := by
        rw [hu]
        exact nofun
      rcases approach_step h (Or.inl hnone) (by
        intro socket a hlooking
        rw [hlooking] at hu
        cases hu) with ⟨v, hless⟩
      refine ⟨.proceed v none, ⟨v, none, rfl⟩, ⟨step_orderly h v, ?_, ?_⟩, hless⟩
      · rcases move_waits (proceed_move s v none) ht with hstill | ⟨_, hmem⟩
        · exact hstill
        · exact absurd hmem habsent
      · exact announces_kept v hu)
    ⟨h, ht, Or.inr hu⟩ with ⟨more, hlength, hproceeds, hreached⟩
  exact ⟨more, Nat.le_trans hlength (distance_le u s), hproceeds, hreached⟩

theorem run_finds (h : Orderly s) (ht : (s.pc t).waits = some (socket, address))
    (hmem : address ∈ s.boundAddresses) :
    exists more, more.length ≤ 15 ∧ (forall a, a ∈ more -> Proceeds a) ∧
      (run step s more).pc t = .connecting socket address := by
  rcases exists_run step (A := Proceeds)
    (I := fun s => Orderly s ∧ address ∈ s.boundAddresses ∧
      ((s.pc t).waits = some (socket, address) ∨
        s.pc t = .connecting socket address))
    (G := fun s => s.pc t = .connecting socket address)
    (distance t) (by
      rintro s ⟨h, hmem, hstate⟩ hleft
      have ht := hstate.resolve_right hleft
      have hnone : (s.pc t).waits ≠ none := by
        rw [ht]
        exact nofun
      rcases approach_step h (Or.inr hnone) (by
        intro socket a hlooking
        rw [hlooking] at ht
        cases ht
        exact hmem) with ⟨v, hless⟩
      have hmove := proceed_move s v none
      refine ⟨.proceed v none, ⟨v, none, rfl⟩,
        ⟨step_orderly h v, move_kept hmove hmem, ?_⟩, hless⟩
      rcases move_waits hmove ht with hstill | ⟨hthere, _⟩
      · exact Or.inl hstill
      · exact Or.inr hthere)
    ⟨h, hmem, Or.inl ht⟩ with ⟨more, hlength, hproceeds, hreached⟩
  exact ⟨more, Nat.le_trans hlength (distance_le t s), hproceeds, hreached⟩

theorem run_waits (ht : (s.pc t).waits = some (socket, address))
    (hunannounced : ¬ Announced s address) {more : List (Action thread)}
    (hmore : forall a, a ∈ more -> Proceeds a) :
    ((run step s more).pc t).waits = some (socket, address) := by
  have hmeet : StepsMeet (fun _ a => Proceeds a) step s more :=
    stepsMeet_of_mem (fun a ha _ => hmore a ha) s
  have hrun := run_invariant_of_stepsMeet
    (I := fun s => (s.pc t).waits = some (socket, address) ∧ ¬ Announced s address)
    (by
      rintro s _ ⟨ht, hunannounced⟩ ⟨v, error, rfl⟩
      have hmove := proceed_move s v error
      refine ⟨?_, fun hnext => hunannounced (move_announced hmove hnext)⟩
      rcases move_waits hmove ht with hstill | ⟨_, hmem⟩
      · exact hstill
      · exact absurd (Or.inl hmem) hunannounced)
    ⟨ht, hunannounced⟩ hmeet
  exact hrun.left

end Runs

/--
A waiting thread can be brought to its `connect` without a new call, in a number of
steps that does not depend on the other threads, exactly if somebody has bound the
address or is about to.  Until then no step takes it out of its loop.
-/
theorem rendezvous {actions : List (Action thread)}
    (hmeet : StepsMeet ConnectReturns step State.initial actions) {t : thread}
    {socket : SocketId} {address : String}
    (ht : ((run step State.initial actions).pc t).waits = some (socket, address)) :
    (Announced (run step State.initial actions) address ->
      exists more, more.length ≤ 30 ∧ (forall a, a ∈ more -> Proceeds a) ∧
        (run step State.initial (actions ++ more)).pc t =
          .connecting socket address) ∧
    (¬ Announced (run step State.initial actions) address ->
      forall more, (forall a, a ∈ more -> Proceeds a) ->
        ((run step State.initial (actions ++ more)).pc t).waits =
          some (socket, address)) := by
  have horderly : Orderly (run step State.initial actions) :=
    run_invariant_of_stepsMeet (I := Orderly)
      (fun s a h ha => ⟨step_excludes s a h.excludes,
        (step_mutexReleased s a h.excludes h.released).mpr ha⟩)
      ⟨initial_excludes, initial_mutexReleased⟩ hmeet
  simp only [run_append]
  generalize run step State.initial actions = s at ht horderly
  constructor
  · rintro (hmem | ⟨u, hu⟩)
    · rcases run_finds horderly ht hmem with ⟨more, hlength, hproceeds, hreached⟩
      exact ⟨more, Nat.le_trans hlength (by decide), hproceeds, hreached⟩
    · rcases run_inserts horderly ht hu with
        ⟨first, hfirst, hproceeds, hlater, hwaits, hmem⟩
      rcases run_finds hlater hwaits hmem with ⟨second, hsecond, hrest, hreached⟩
      refine ⟨first ++ second, ?_, ?_, ?_⟩
      · rw [List.length_append]
        lia
      · exact fun a ha => (List.mem_append.mp ha).elim (hproceeds a) (hrest a)
      · rw [run_append]
        exact hreached
  · intro hunannounced more hmore
    exact run_waits ht hunannounced hmore

end System

def bindAndConnect : List (Action Nat) := [
  .GenerateSocket 0 "L0" .push 1000 .ok,
  .GenerateSocket 1 "L0" .pull 1000 .ok,
  .ConnectInproc 0 0 "inproc://EB/0/L0",
  .BindInproc 1 1 "inproc://EB/0/L0"]

theorem rendezvous_bindAndConnect :
    exists more, more.length ≤ 30 ∧ (forall a, a ∈ more -> Proceeds a) ∧
      (run step State.initial (bindAndConnect ++ more)).pc 0 =
        .connecting 0 "inproc://EB/0/L0" :=
  (rendezvous (show StepsMeet ConnectReturns step State.initial bindAndConnect from
    ⟨id, id, id, id, trivial⟩) rfl).left (Or.inr ⟨1, rfl⟩)

end Inproc
end Socket
end FarmNetworking
