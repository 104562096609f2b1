import FarmNetworking.Socket.Inproc

/-!
# The mutex of the connects

`BindInproc` holds `connectMutex_` through a guard.  `ConnectInproc` locks and
unlocks it by hand, and a `connect` that throws leaves the function with the mutex
held.  Nobody gets it ever again.
-/

namespace FarmNetworking
namespace Socket
namespace Inproc

open Foundation Runs
open ZMQHandler

section System

variable {thread : Type*}

/--
Only a thread inside the insertion or the lookup holds the mutex, only its holder
has ever unlocked it, and a call that is over has given it back.
-/
structure MutexReleased (s : State thread) : Prop where
  held : forall t, s.connectMutex.holder = some t -> s.critical t = true
  unlocks : s.connectMutex.foreignUnlocks = []
  returned : forall t, s.pc t = .idle -> s.connectMutex.holder ≠ some t

theorem mutexReleased_iff (s : State thread) :
    MutexReleased s <-> Mutex.Disciplined s.connectMutex s.critical := by
  constructor
  · exact fun h => ⟨h.held, h.unlocks⟩
  · intro h
    refine ⟨h.inside, h.unlocks, ?_⟩
    intro t hidle hholds
    have hcritical := h.inside t hholds
    rw [State.critical, hidle] at hcritical
    cases hcritical

def Pc.connects : Pc -> Bool
  | .connecting _ _ => true
  | _ => false

def ConnectThrows (s : State thread) : Action thread -> Prop
  | .proceed t (some _) => (s.pc t).connects = true
  | _ => False

def ConnectReturns (s : State thread) (a : Action thread) : Prop :=
  ¬ ConnectThrows s a

theorem critical_of_pc {s : State thread} {t : thread} {pc : Pc}
    (hpc : s.pc t = pc) : s.critical t = pc.critical :=
  congrArg Pc.critical hpc

theorem returns_of_pc {s : State thread} {t : thread} {pc : Pc}
    (hpc : s.pc t = pc) (h : pc.connects = false) (error : Option Errno) :
    ConnectReturns s (.proceed t error) := by
  intro hthrows
  cases error with
  | none => exact hthrows
  | some e =>
      rw [ConnectThrows, hpc, h] at hthrows
      cases hthrows

theorem initial_excludes :
    Mutex.Excludes (State.initial : State thread).connectMutex
      (State.initial : State thread).critical := by
  intro t ht
  cases ht

theorem initial_mutexReleased : MutexReleased (State.initial : State thread) := by
  constructor
  · intro t ht
    cases ht
  · rfl
  · intro t _ ht
    cases ht

/-!
## What a step does to the mutex
-/

variable [DecidableEq thread]

inductive Effect (s : State thread) (a : Action thread) :
    Mutex thread -> (thread -> Bool) -> Prop where
  | stays : ConnectReturns s a -> Effect s a s.connectMutex s.critical
  | enters (t : thread) : ConnectReturns s a -> s.connectMutex.holder = none ->
      Effect s a (s.connectMutex.acquire t) (Function.update s.critical t true)
  | leaves (t : thread) : ConnectReturns s a -> s.critical t = true ->
      Effect s a (s.connectMutex.unlock t) (Function.update s.critical t false)
  | escapes (t : thread) : ConnectThrows s a -> s.critical t = true ->
      Effect s a s.connectMutex (Function.update s.critical t false)

theorem goto_critical (s : State thread) (t : thread) (pc : Pc) :
    (s.goto t pc).critical = Function.update s.critical t pc.critical :=
  Function.comp_update Pc.critical s.pc t pc

theorem goto_critical_same {s : State thread} {t : thread} {pc : Pc}
    (h : pc.critical = s.critical t) : (s.goto t pc).critical = s.critical := by
  rw [goto_critical, h, Function.update_eq_self]

theorem goto_effect {s s' : State thread} {a : Action thread} {t : thread}
    (pc : Pc) (ha : ConnectReturns s a)
    (hmutex : s'.connectMutex = s.connectMutex)
    (hpc : s'.critical = (s.goto t pc).critical)
    (h : pc.critical = s.critical t) :
    Effect s a s'.connectMutex s'.critical := by
  rw [hmutex, hpc, goto_critical_same h]
  exact Effect.stays ha

theorem lock_effect {s : State thread} {a : Action thread} {t : thread}
    {pc : Pc} (ha : ConnectReturns s a) (hpc : pc.critical = true) :
    Effect s a (s.lock t pc).connectMutex (s.lock t pc).critical := by
  unfold State.lock
  split
  · exact Effect.stays ha
  · next hfree =>
      have hcritical := goto_critical s t pc
      rw [hpc] at hcritical
      change Effect s a (s.connectMutex.acquire t) (s.goto t pc).critical
      rw [hcritical]
      exact Effect.enters t ha hfree

theorem unlock_effect {s : State thread} {a : Action thread} {t : thread}
    {pc : Pc} (ha : ConnectReturns s a) (ht : s.critical t = true)
    (hpc : pc.critical = false) :
    Effect s a (s.unlock t pc).connectMutex (s.unlock t pc).critical := by
  have hcritical := goto_critical s t pc
  rw [hpc] at hcritical
  change Effect s a (s.connectMutex.unlock t) (s.goto t pc).critical
  rw [hcritical]
  exact Effect.leaves t ha ht

theorem connect_effect {s : State thread} {t : thread} {socket : SocketId}
    {address : String} (hpc : s.pc t = .connecting socket address)
    (error : Option Errno) :
    Effect s (.proceed t error)
      (s.connect t socket address error).connectMutex
      (s.connect t socket address error).critical := by
  have ht : s.critical t = true := critical_of_pc hpc
  cases error with
  | none => exact goto_effect .leaving id rfl rfl ht.symm
  | some e =>
      have hthrows : ConnectThrows s (.proceed t (some e)) := by
        rw [ConnectThrows, hpc]
        rfl
      have hcritical := goto_critical s t .idle
      change Effect s _ s.connectMutex (s.goto t .idle).critical
      rw [hcritical]
      exact Effect.escapes t hthrows ht

theorem proceed_effect (s : State thread) (t : thread) (error : Option Errno) :
    Effect s (.proceed t error) (proceed s t error).connectMutex
      (proceed s t error).critical := by
  unfold proceed
  cases hpc : s.pc t with
  | idle => exact Effect.stays (returns_of_pc hpc rfl error)
  | binding socket address =>
      have ha := returns_of_pc hpc rfl error
      have ht := critical_of_pc hpc
      cases error with
      | none => exact goto_effect (.guarding socket address) ha rfl rfl ht.symm
      | some e => exact goto_effect .idle ha rfl rfl ht.symm
  | guarding socket address => exact lock_effect (returns_of_pc hpc rfl error) rfl
  | inserting socket address =>
      exact goto_effect .unguarding (returns_of_pc hpc rfl error) rfl rfl
        (critical_of_pc hpc).symm
  | unguarding =>
      exact unlock_effect (returns_of_pc hpc rfl error) (critical_of_pc hpc) rfl
  | locking socket address =>
      exact lock_effect (returns_of_pc hpc rfl error) rfl
  | looking socket address =>
      have ha := returns_of_pc hpc rfl error
      have ht := critical_of_pc hpc
      dsimp only
      split
      · exact goto_effect (.connecting socket address) ha rfl rfl ht.symm
      · exact goto_effect (.unlocking socket address) ha rfl rfl ht.symm
  | unlocking socket address =>
      exact unlock_effect (returns_of_pc hpc rfl error) (critical_of_pc hpc) rfl
  | sleeping socket address =>
      exact goto_effect (.locking socket address)
        (returns_of_pc hpc rfl error) rfl rfl (critical_of_pc hpc).symm
  | connecting socket address => exact connect_effect hpc error
  | leaving =>
      exact unlock_effect (returns_of_pc hpc rfl error) (critical_of_pc hpc) rfl

theorem call_effect {s called : State thread} {a : Action thread} {c : Prop}
    [Decidable c] (ha : ConnectReturns s a)
    (h : c -> Effect s a called.connectMutex called.critical) :
    Effect s a (if c then called else s).connectMutex
      (if c then called else s).critical := by
  split
  · next hcalls => exact h hcalls
  · exact Effect.stays ha

theorem step_effect (s : State thread) (a : Action thread) :
    Effect s a (step s a).connectMutex (step s a).critical := by
  cases a with
  | proceed t error => exact proceed_effect s t error
  | GenerateSocket t name socketType highWaterMark outcome =>
      have ha : ConnectReturns s
        (.GenerateSocket t name socketType highWaterMark outcome) := id
      exact call_effect ha fun _ => Effect.stays ha
  | DestroySocket t pointer =>
      have ha : ConnectReturns s (.DestroySocket t pointer) := id
      exact call_effect ha fun _ => Effect.stays ha
  | BindInproc t socket address =>
      have ha : ConnectReturns s (.BindInproc t socket address) := id
      apply call_effect ha
      intro hcalls
      exact goto_effect (.binding socket address) ha rfl rfl
        (critical_of_pc hcalls.left).symm
  | ConnectInproc t socket address =>
      have ha : ConnectReturns s (.ConnectInproc t socket address) := id
      apply call_effect ha
      intro hcalls
      exact goto_effect (.locking socket address) ha rfl rfl
        (critical_of_pc hcalls.left).symm

/-!
## Runs
-/

theorem step_excludes (s : State thread) (a : Action thread)
    (h : Mutex.Excludes s.connectMutex s.critical) :
    Mutex.Excludes (step s a).connectMutex (step s a).critical := by
  have heffect := step_effect s a
  generalize (step s a).connectMutex = m at heffect ⊢
  generalize (step s a).critical = critical at heffect ⊢
  cases heffect with
  | stays _ => exact h
  | enters t _ hfree => exact Mutex.acquire_excludes h hfree
  | leaves t _ ht => exact Mutex.unlock_excludes h ht
  | escapes t _ ht => exact Mutex.leave_excludes h

theorem step_mutexReleased (s : State thread) (a : Action thread)
    (hexcludes : Mutex.Excludes s.connectMutex s.critical)
    (h : MutexReleased s) : MutexReleased (step s a) <-> ConnectReturns s a := by
  rw [mutexReleased_iff] at h ⊢
  have heffect := step_effect s a
  generalize (step s a).connectMutex = m at heffect ⊢
  generalize (step s a).critical = critical at heffect ⊢
  cases heffect with
  | stays hreturns => exact iff_of_true h hreturns
  | enters t hreturns hfree =>
      exact iff_of_true (Mutex.acquire_disciplined h) hreturns
  | leaves t hreturns ht =>
      exact iff_of_true (Mutex.unlock_disciplined hexcludes h ht) hreturns
  | escapes t hthrows ht =>
      exact iff_of_false (Mutex.leave_not_disciplined hexcludes ht)
        fun hreturns => hreturns hthrows

theorem mutex_released_iff (actions : List (Action thread)) :
    Along MutexReleased step State.initial actions <->
      StepsMeet ConnectReturns step State.initial actions :=
  along_iff_stepsMeet step_excludes step_mutexReleased initial_excludes
    initial_mutexReleased actions

structure Stuck (s : State thread) (t : thread) : Prop where
  excludes : Mutex.Excludes s.connectMutex s.critical
  holds : s.connectMutex.holder = some t
  outside : s.critical t = false

theorem step_stuck (t : thread) (s : State thread) (a : Action thread)
    (h : Stuck s t) : Stuck (step s a) t := by
  have hnobody : forall u, s.critical u ≠ true := by
    intro u hu
    have hsame : some u = some t := (h.excludes u hu).symm.trans h.holds
    have houtside := h.outside
    rw [← Option.some.inj hsame, hu] at houtside
    cases houtside
  have hnext := step_excludes s a h.excludes
  have heffect := step_effect s a
  suffices hsame : (step s a).connectMutex = s.connectMutex ∧
      (step s a).critical = s.critical by
    refine ⟨hnext, ?_, ?_⟩
    · rw [hsame.left]
      exact h.holds
    · rw [hsame.right]
      exact h.outside
  generalize (step s a).connectMutex = m at heffect ⊢
  generalize (step s a).critical = critical at heffect ⊢
  cases heffect with
  | stays _ => exact ⟨rfl, rfl⟩
  | enters u _ hfree =>
      have hholds := h.holds
      rw [hfree] at hholds
      cases hholds
  | leaves u _ hu => exact absurd hu (hnobody u)
  | escapes u _ hu => exact absurd hu (hnobody u)

theorem throws_stuck {s : State thread} {t : thread} {e : Errno}
    (hexcludes : Mutex.Excludes s.connectMutex s.critical)
    (h : ConnectThrows s (.proceed t (some e))) :
    Stuck (step s (.proceed t (some e))) t := by
  cases hpc : s.pc t with
  | connecting socket address =>
      refine ⟨step_excludes s (.proceed t (some e)) hexcludes, ?_, ?_⟩
      · change (proceed s t (some e)).connectMutex.holder = some t
        rw [proceed, hpc]
        exact hexcludes t (critical_of_pc hpc)
      · change (proceed s t (some e)).critical t = false
        rw [proceed, hpc]
        change (s.goto t .idle).critical t = false
        rw [goto_critical, Function.update_self]
        rfl
  | _ =>
      rw [ConnectThrows, hpc] at h
      cases h

/-- Behind a `connect` that throws, no thread ever gets the mutex again. -/
theorem stuck_forever {s : State thread} {t : thread} {e : Errno}
    (hexcludes : Mutex.Excludes s.connectMutex s.critical)
    (h : ConnectThrows s (.proceed t (some e)))
    (actions : List (Action thread)) :
    Stuck (run step (step s (.proceed t (some e))) actions) t :=
  run_invariant (step_stuck t) (throws_stuck hexcludes h) actions

end System

def failedConnect : List (Action Nat) :=
  [.GenerateSocket 0 "L0" .pull 100 .ok, .GenerateSocket 1 "L1" .push 100 .ok,
    .BindInproc 0 0 "inproc://EB/0/L0", .proceed 0 none, .proceed 0 none,
    .proceed 0 none, .proceed 0 none, .ConnectInproc 1 1 "inproc://EB/0/L0",
    .proceed 1 none, .proceed 1 none, .proceed 1 (some 24)]

theorem failedConnect_keeps_mutex :
    ¬ Along MutexReleased step State.initial failedConnect := by
  intro halong
  have hidle : (run step State.initial failedConnect).pc 1 = .idle := by
    decide
  have hholds : (run step State.initial failedConnect).connectMutex.holder =
      some 1 := by
    decide
  exact (along_run halong).returned 1 hidle hholds

end Inproc
end Socket
end FarmNetworking
