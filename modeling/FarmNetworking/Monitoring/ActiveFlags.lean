import FarmNetworking.Monitoring.Sockets

/-!
# Flags and the shutdown

`shutDown` leaves a socket alone while its flag says that an operation is using
it.  The receiving operations raise the flag before `recv`, and each of them has
an exit on which the flag stays up.
-/

namespace FarmNetworking
namespace Monitoring
namespace IPCHandler

open Foundation Runs
open Socket ZMQHandler

/--
All flags are down.  A call of `shutDown` would hand every pointer that is not
null to `DestroySocket`, and none of the sockets would be left.
-/
structure ReadyToShutDown (s : State) : Prop where
  flags : forall slot, s.active slot = false
  destroyed : forall slot socket, s.pointer slot = some socket ->
    (exists u, u ∈ (shutDown s).uses.drop s.uses.length ∧
      u.call = .destroy ∧ u.slot = slot ∧ u.socket = socket) ∧
    socket ∉ (shutDown s).zmq.liveSockets

/-- The exits of a receiving operation behind which its flag is up. -/
def Operation.leavesFlag : Operation -> Bool
  | .getNextCommand _ (.error _) => true
  | .tryToReceiveStatistics _ (.message _ _) => true
  | .tryToReceiveStatistics _ (.error _) => true
  | .tryToReceiveState _ (.message _ _) => true
  | .tryToReceiveState _ (.error _) => true
  | _ => false

/-- The operation returns by such an exit only if its tests stop it before. -/
def LowersFlag (s : State) (op : Operation) : Prop :=
  forall g, s.crashed = false -> op.guard = some g -> g.Passes s ->
    op.leavesFlag = false

/-!
## Shutting down with all flags down
-/

theorem closeInactive_uses (s : State) (slot : Slot) :
    exists log, (closeInactive s slot).uses = s.uses ++ log ∧
      (s.active slot = false -> forall socket,
        s.pointer slot = some socket -> exists u, u ∈ log ∧
          u.call = .destroy ∧ u.slot = slot ∧ u.socket = socket) := by
  unfold closeInactive
  cases hactive : s.active slot with
  | true => exact ⟨[], (List.append_nil _).symm, nofun⟩
  | false =>
      cases hpointer : s.pointer slot with
      | none =>
          refine ⟨[], ?_, nofun⟩
          simp [State.destroy, hpointer]
      | some socket =>
          refine ⟨_, destroy_uses hpointer, ?_⟩
          rintro _ other ⟨⟩
          exact ⟨_, List.mem_singleton.mpr rfl, rfl, rfl, rfl⟩

theorem closeAll_uses (slots : List Slot) (s : State) :
    exists log, (slots.foldl closeInactive s).uses = s.uses ++ log ∧
      forall slot, slot ∈ slots -> s.active slot = false -> forall socket,
        s.pointer slot = some socket -> exists u, u ∈ log ∧
          u.call = .destroy ∧ u.slot = slot ∧ u.socket = socket := by
  induction slots generalizing s with
  | nil => exact ⟨[], (List.append_nil _).symm, nofun⟩
  | cons slot rest ih =>
      rcases closeInactive_frame s slot with ⟨hpointer, hactive, _⟩
      rcases closeInactive_uses s slot with ⟨log, huses, hslot⟩
      rcases ih (closeInactive s slot) with ⟨more, hmore, hrest⟩
      rw [hpointer, hactive] at hrest
      refine ⟨log ++ more, ?_, ?_⟩
      · rw [List.foldl_cons, hmore, huses, List.append_assoc]
      · intro other hother hdown socket hsocket
        rcases List.mem_cons.mp hother with heq | hmem
        · subst heq
          rcases hslot hdown socket hsocket with ⟨u, hu, hfields⟩
          exact ⟨u, List.mem_append_left _ hu, hfields⟩
        · rcases hrest other hmem hdown socket hsocket with ⟨u, hu, hfields⟩
          exact ⟨u, List.mem_append_right _ hu, hfields⟩

theorem readyToShutDown_iff (s : State) :
    ReadyToShutDown s <-> forall slot, s.active slot = false := by
  constructor
  · exact ReadyToShutDown.flags
  · intro hflags
    refine ⟨hflags, ?_⟩
    intro slot socket hsocket
    rcases closeAll_uses shutDownOrder s with ⟨log, huses, hdestroyed⟩
    constructor
    · rw [shutDown, huses, List.drop_left]
      exact hdestroyed slot (mem_shutDownOrder slot) (hflags slot) socket hsocket
    · rw [shutDown, closeAll_live]
      intro h
      exact h.right slot (mem_shutDownOrder slot) (hflags slot) hsocket

/-!
## The flags behind an operation
-/

@[simp] theorem setActive_active (s : State) (slot : Slot) (up : Bool) :
    (s.setActive slot up).active = Function.update s.active slot up := rfl

@[simp] theorem failed_active (s : State) (slot : Slot) (e : Errno) :
    (s.failed slot e).active = s.active :=
  moves_active (failed_acts false s slot e).moves

theorem recv_active {t : State} {slot : Slot} (hcrashed : t.crashed = false)
    (hpointer : t.pointer slot ≠ none) :
    exists r, (t.setActive slot true).use .recv slot = r ∧ r.crashed = false ∧
      r.active = Function.update t.active slot true := by
  refine ⟨_, rfl, recv_crashed hcrashed hpointer, ?_⟩
  rw [use_active, setActive_active]

/-- The flag of the tested pointer tells by which exit the operation returned. -/
theorem perform_flag {op : Operation} {g : Guard} {s t : State}
    (hg : op.guard = some g) (hcrashed : s.crashed = false)
    (h : g.enter s = (true, t)) (hreceives : op.receives = true) :
    (perform s op).active = Function.update t.active g.slot op.leavesFlag := by
  rcases enter_passed hg hcrashed h with ⟨hpassed, hpointer⟩
  rcases recv_active hpassed hpointer with ⟨r, hr, halive, hactive⟩
  cases op with
  | getNextCommand calls outcome =>
      cases hg
      change enter connectClient .commandReceiver calls s = _ at h
      simp only [perform, getNextCommand, h, hr, halive]
      cases outcome <;> simp [hactive, Operation.leavesFlag]
  | tryToReceiveStatistics calls outcome =>
      cases hg
      change enter bindServer .statisticsReceiver calls s = _ at h
      simp only [perform, tryToReceiveStatistics, h, hr, halive]
      cases outcome <;> simp [hactive, Operation.leavesFlag]
  | tryToReceiveState calls outcome =>
      cases hg
      change enter bindServer .stateReceiver calls s = _ at h
      simp only [perform, tryToReceiveState, h, hr, halive]
      cases outcome <;> simp [hactive, Operation.leavesFlag]
  | _ => cases hreceives

theorem leavesFlag_of_not_receives {op : Operation}
    (h : op.receives = false) : op.leavesFlag = false := by
  cases op with
  | getNextCommand calls outcome => cases h
  | tryToReceiveStatistics calls outcome => cases h
  | tryToReceiveState calls outcome => cases h
  | _ => rfl

theorem entry_active {g : Guard} {s : State} {e : Bool × State}
    (h : Entry g s e) : e.2.active = s.active :=
  (moves_active (entry_moves h)).trans (generated_frame g s).left

theorem perform_active {op : Operation} {g : Guard} {s : State}
    (hg : op.guard = some g) (hcrashed : s.crashed = false)
    (hflags : forall slot, s.active slot = false) :
    (forall slot, (perform s op).active slot = false) <->
      (g.Passes s -> op.leavesFlag = false) := by
  cases hreceives : op.receives with
  | false =>
      refine iff_of_true ?_ (fun _ => leavesFlag_of_not_receives hreceives)
      rcases perform_generated hg hcrashed with ⟨t, hmoves, hperform⟩
      rw [hreceives] at hmoves
      have ht : t.active = s.active :=
        (moves_active hmoves).trans (generated_frame g s).left
      rcases hperform with heq | heq <;> rw [heq] <;> intro slot <;>
        exact (congrFun ht slot).trans (hflags slot)
  | true =>
      have hentry := enter_entry (g := g) hcrashed
      have hactive := entry_active hentry
      have hpasses := entry_passes hentry
      cases henter : g.enter s with
      | mk passed t =>
          rw [henter] at hactive hpasses
          cases passed with
          | false =>
              rw [perform_blocked hg henter]
              refine iff_of_true ?_ (fun h => absurd (hpasses.mpr h) nofun)
              intro slot
              exact (congrFun hactive slot).trans (hflags slot)
          | true =>
              rw [perform_flag hg hcrashed henter hreceives, hactive]
              constructor
              · intro hall _
                have hslot := hall g.slot
                rwa [Function.update_self] at hslot
              · intro hdown slot
                rw [hdown (hpasses.mp rfl)]
                by_cases hslot : slot = g.slot
                · rw [hslot, Function.update_self]
                · rw [Function.update_of_ne hslot]
                  exact hflags slot

/-!
## Runs
-/

theorem step_readyToShutDown {s : State} (op : Operation)
    (h : ReadyToShutDown s) :
    ReadyToShutDown (step s op) <-> LowersFlag s op := by
  rw [readyToShutDown_iff]
  cases hcrashed : s.crashed with
  | true =>
      rw [step_of_crashed hcrashed]
      refine iff_of_true h.flags ?_
      intro g halive
      rw [hcrashed] at halive
      cases halive
  | false =>
      rw [step_of_not_crashed hcrashed]
      cases hg : op.guard with
      | none =>
          have hop := guard_eq_none hg
          subst hop
          refine iff_of_true ?_ (fun g _ hguard => by cases hguard)
          intro slot
          rw [perform, shutDown, (closeAll_frame shutDownOrder s).right.left]
          exact h.flags slot
      | some g =>
          refine (perform_active hg hcrashed h.flags).trans ?_
          constructor
          · intro hdown g' _ hg'
            rw [hg] at hg'
            cases hg'
            exact hdown
          · intro hdown
            exact hdown g hcrashed hg

theorem initial_readyToShutDown : ReadyToShutDown State.initial :=
  (readyToShutDown_iff _).mpr fun _ => rfl

theorem ready_to_shutDown_iff (ops : List Operation) :
    Along ReadyToShutDown step State.initial ops <->
      StepsMeet LowersFlag step State.initial ops :=
  along_iff_stepsMeet (I := fun _ => True) (fun _ _ _ => trivial)
    (fun _ op _ h => step_readyToShutDown op h) trivial
    initial_readyToShutDown ops

/-- After one state has been received, the receiver survives a `shutDown`. -/
theorem receiver_survives_shutDown :
    ¬ Along ReadyToShutDown step State.initial
      [.tryToReceiveState Calls.succeed (.message [2, 0, 0, 0] [])] ∧
    (run step State.initial
      [.tryToReceiveState Calls.succeed (.message [2, 0, 0, 0] []),
        .shutDown]).zmq.allSockets = [(0, "stateReceiver_")] := by
  constructor
  · intro halong
    exact absurd ((along_run halong).flags .stateReceiver) (by decide)
  · decide

end IPCHandler
end Monitoring
end FarmNetworking
