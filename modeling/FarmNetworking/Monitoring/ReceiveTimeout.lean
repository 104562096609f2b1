import FarmNetworking.Monitoring.Recovery
import FarmNetworking.Monitoring.Sockets

/-!
# The timeout of the receivers

`setTimeout` stores the timeout in two sockets and nowhere else.  A reconnect
creates new sockets, which wait forever, and nobody repeats the call.
-/

namespace FarmNetworking
namespace Monitoring
namespace IPCHandler

open Foundation Runs
open Socket ZMQHandler

def Operation.polls : Operation -> Bool
  | .tryToReceiveStatistics _ _ => true
  | .tryToReceiveState _ _ => true
  | _ => false

def newUses (s : State) (op : Operation) : List Use :=
  (step s op).uses.drop s.uses.length

/-- `setTimeout` gets past its test and through both options. -/
def SetsTimeout (s : State) (timeout : Int) (calls : Calls) : Prop :=
  (ensure bindServer .statisticsReceiver calls s).1 = true ∧
    (step s (.setTimeout timeout calls none none)).crashed = false

instance SetsTimeout.decidable (s : State) (timeout : Int) (calls : Calls) :
    Decidable (SetsTimeout s timeout calls) := by
  unfold SetsTimeout
  infer_instance

def KeepsTimeout (timeout : Int) (s : State) (op : Operation) : Prop :=
  forall u, u ∈ newUses s op -> u.call = .recv ->
    u.live = true ∧ u.state.rcvtimeo = timeout

/--
The tested pointer is that of a live socket from before the mark.  With a timeout
of -1, which is that of every new socket, any live socket will do, and a new one.
-/
def Guard.FindsTimeout (g : Guard) (mark : SocketId) (timeout : Int)
    (s : State) : Prop :=
  match s.pointer g.slot with
  | none => timeout = -1
  | some socket => socket ∈ s.zmq.liveSockets ∧
      (timeout = -1 ∨ socket < mark)

def FindsTimeout (mark : SocketId) (timeout : Int) (s : State)
    (op : Operation) : Prop :=
  match op.guard with
  | none => True
  | some g => s.crashed = false -> g.Passes s ->
      g.FindsTimeout mark timeout s

instance Guard.FindsTimeout.decidable (g : Guard) (mark : SocketId)
    (timeout : Int) (s : State) : Decidable (g.FindsTimeout mark timeout s) :=
  match h : s.pointer g.slot with
  | none => decidable_of_iff (timeout = -1) (by rw [Guard.FindsTimeout, h])
  | some socket =>
      decidable_of_iff
        (socket ∈ s.zmq.liveSockets ∧ (timeout = -1 ∨ socket < mark))
        (by rw [Guard.FindsTimeout, h])

instance FindsTimeout.decidable (mark : SocketId) (timeout : Int) (s : State)
    (op : Operation) : Decidable (FindsTimeout mark timeout s op) :=
  match h : op.guard with
  | none => .isTrue (by rw [FindsTimeout, h]; trivial)
  | some g =>
      decidable_of_iff (s.crashed = false -> g.Passes s ->
        g.FindsTimeout mark timeout s) (by rw [FindsTimeout, h])

/-!
## The `recv` of an operation
-/

theorem failed_uses (s : State) (slot : Slot) (e : Errno) :
    exists log, (s.failed slot e).uses = s.uses ++ log ∧
      forall u, u ∈ log -> u.call = .destroy := by
  have hnone : exists log, s.uses = s.uses ++ log ∧
      forall u, u ∈ log -> u.call = .destroy :=
    ⟨[], (List.append_nil _).symm, fun _ hu => absurd hu List.not_mem_nil⟩
  unfold State.failed
  split
  · cases hpointer : s.pointer slot with
    | none =>
        rw [State.drop, State.destroy, hpointer]
        exact hnone
    | some socket =>
        refine ⟨_, destroy_uses hpointer, ?_⟩
        intro u hu
        rw [List.mem_singleton.mp hu]
        rfl
  · exact hnone

theorem recv_uses {t : State} {slot : Slot} {socket : SocketId}
    (hcrashed : t.crashed = false) (hpointer : t.pointer slot = some socket) :
    exists r, (t.setActive slot true).use .recv slot = r ∧ r.crashed = false ∧
      r.uses = t.uses ++ [Use.of .recv slot socket t] := by
  have hne : t.pointer slot ≠ none := by
    rw [hpointer]
    exact Option.some_ne_none socket
  exact ⟨_, rfl, recv_crashed hcrashed hne,
    use_uses (s := t.setActive slot true) .recv hpointer⟩

theorem poll_uses {op : Operation} {g : Guard} {s t : State}
    {socket : SocketId} (hg : op.guard = some g) (hpolls : op.polls = true)
    (hcrashed : s.crashed = false) (h : g.enter s = (true, t))
    (hpointer : t.pointer g.slot = some socket) :
    exists log, (perform s op).uses =
        t.uses ++ Use.of .recv g.slot socket t :: log ∧
      forall u, u ∈ log -> u.call = .destroy := by
  have hpassed := enter_passed hg hcrashed h
  rcases recv_uses hpassed.left hpointer with ⟨r, hr, halive, huses⟩
  have hdone : exists log, r.uses =
      t.uses ++ Use.of .recv g.slot socket t :: log ∧
      forall u, u ∈ log -> u.call = .destroy :=
    ⟨[], huses, fun _ hu => absurd hu List.not_mem_nil⟩
  have hfailed : forall e, exists log, (r.failed g.slot e).uses =
      t.uses ++ Use.of .recv g.slot socket t :: log ∧
      forall u, u ∈ log -> u.call = .destroy := by
    intro e
    rcases failed_uses r g.slot e with ⟨log, hlog, hdestroys⟩
    refine ⟨log, ?_, hdestroys⟩
    rw [hlog, huses, List.append_assoc]
    rfl
  cases op with
  | tryToReceiveStatistics calls outcome =>
      cases hg
      change enter bindServer .statisticsReceiver calls s = _ at h
      simp only [perform, tryToReceiveStatistics, h, hr, halive]
      cases outcome with
      | message data behind => exact hdone
      | again => exact hdone
      | error e => exact hfailed e
  | tryToReceiveState calls outcome =>
      cases hg
      change enter bindServer .stateReceiver calls s = _ at h
      simp only [perform, tryToReceiveState, h, hr, halive]
      cases outcome with
      | message data behind => exact hdone
      | again => exact hdone
      | error e => exact hfailed e
  | _ => cases hpolls

theorem keepsTimeout_of_blocked {op : Operation} {g : Guard} {s : State}
    {timeout : Int} (hg : op.guard = some g) (hcrashed : s.crashed = false)
    (h : (g.enter s).1 = false) : KeepsTimeout timeout s op := by
  rcases (enter_prepares g s).uses with ⟨log, huses, hattach⟩
  have hperform : perform s op = (g.enter s).2 := by
    refine perform_blocked hg ?_
    rw [← h]
  intro u hu hcall
  rw [newUses, step_of_not_crashed hcrashed, hperform, huses,
    List.drop_left] at hu
  rw [hattach u hu] at hcall
  cases hcall

theorem keepsTimeout_iff {op : Operation} {g : Guard} {s t : State}
    {socket : SocketId} {timeout : Int} (hg : op.guard = some g)
    (hpolls : op.polls = true) (hcrashed : s.crashed = false)
    (h : g.enter s = (true, t)) (hpointer : t.pointer g.slot = some socket) :
    KeepsTimeout timeout s op <-> socket ∈ t.zmq.liveSockets ∧
      (t.zmq.sockets socket).rcvtimeo = timeout := by
  have hprepares := enter_prepares g s
  rw [h] at hprepares
  rcases hprepares.uses with ⟨before, hbefore, hattach⟩
  rcases poll_uses hg hpolls hcrashed h hpointer with ⟨log, huses, hdestroys⟩
  have hnew : newUses s op =
      before ++ Use.of .recv g.slot socket t :: log := by
    rw [newUses, step_of_not_crashed hcrashed, huses, hbefore,
      List.append_assoc, List.drop_left]
  unfold KeepsTimeout
  rw [hnew]
  constructor
  · intro hall
    rcases hall (Use.of .recv g.slot socket t) (by simp) rfl with
      ⟨hlive, htimeout⟩
    exact ⟨of_decide_eq_true hlive, htimeout⟩
  · rintro ⟨hlive, htimeout⟩ u hu hcall
    rcases List.mem_append.mp hu with hold | hrest
    · rw [hattach u hold] at hcall
      cases hcall
    · rcases List.mem_cons.mp hrest with heq | hlate
      · rw [heq]
        exact ⟨decide_eq_true hlive, htimeout⟩
      · rw [hdestroys u hlate] at hcall
        cases hcall

/-!
## While a timeout is in force
-/

def Polled (slot : Slot) : Prop :=
  slot = .statisticsReceiver ∨ slot = .stateReceiver

/-- Receivers from before the mark have the timeout, later sockets have none. -/
structure InForce (mark : SocketId) (timeout : Int) (s : State) : Prop where
  wellFormed : (view s).WellFormed
  mark_le : mark ≤ s.zmq.nextSocket
  old : forall slot, Polled slot -> forall socket,
    s.pointer slot = some socket -> socket < mark ->
      (s.zmq.sockets socket).rcvtimeo = timeout
  new : forall socket, mark ≤ socket -> socket < s.zmq.nextSocket ->
    (s.zmq.sockets socket).rcvtimeo = -1

theorem step_inForce {mark : SocketId} {timeout : Int} {s : State}
    (op : Operation) (h : InForce mark timeout s)
    (hop : op.setsTimeout = false) : InForce mark timeout (step s op) := by
  have hgrows := step_grows s hop
  constructor
  · exact step_wellFormed s op h.wellFormed
  · exact Nat.le_trans h.mark_le hgrows.next
  · intro slot hslot socket hsocket hmark
    rcases step_pointer hsocket with hold | hnew
    · rw [hgrows.timeout socket (Nat.lt_of_lt_of_le hmark h.mark_le)]
      exact h.old slot hslot socket hold hmark
    · exact absurd (Nat.le_trans h.mark_le hnew) (Nat.not_le_of_lt hmark)
  · intro socket hmark hlt
    by_cases hold : socket < s.zmq.nextSocket
    · rw [hgrows.timeout socket hold]
      exact h.new socket hmark hold
    · exact hgrows.fresh socket (Nat.le_of_not_lt hold) hlt

theorem run_inForce {mark : SocketId} {timeout : Int} {s : State}
    {ops : List Operation} (h : InForce mark timeout s)
    (hops : forall op, op ∈ ops -> op.setsTimeout = false) :
    InForce mark timeout (run step s ops) := by
  induction ops generalizing s with
  | nil => exact h
  | cons op rest ih =>
      rcases List.forall_mem_cons.mp hops with ⟨hop, hrest⟩
      exact ih (step_inForce op h hop) hrest

theorem setTimeout_sets {s t : State} {timeout : Int} {calls : Calls}
    (h : ensure bindServer .statisticsReceiver calls s = (true, t))
    (halive : (setTimeout s timeout calls none none).crashed = false) :
    exists first second, t.pointer .statisticsReceiver = some first ∧
      t.pointer .stateReceiver = some second ∧
      (setTimeout s timeout calls none none).pointer = t.pointer ∧
      (setTimeout s timeout calls none none).zmq =
        ZMQHandler.configure (ZMQHandler.configure t.zmq first
          (setRcvtimeo timeout)) second (setRcvtimeo timeout) := by
  cases hfirst : t.pointer .statisticsReceiver with
  | none => simp [setTimeout, h, use_null hfirst] at halive
  | some first =>
      cases hsecond : t.pointer .stateReceiver with
      | none =>
          cases hcrashed : t.crashed <;>
            simp [setTimeout, h, State.use, State.configure, State.log, hfirst,
              hsecond, hcrashed] at halive
      | some second =>
          cases hcrashed : t.crashed with
          | true =>
              simp [setTimeout, h, State.use, State.log, hfirst, hcrashed]
                at halive
          | false =>
              refine ⟨first, second, rfl, rfl, ?_, ?_⟩ <;>
                simp [setTimeout, h, State.use, State.configure, State.log,
                  hfirst, hsecond, hcrashed]

theorem setsTimeout_inForce {s : State} {timeout : Int} {calls : Calls}
    (hwell : (view s).WellFormed) (h : SetsTimeout s timeout calls) :
    let set := step s (.setTimeout timeout calls none none)
    InForce set.zmq.nextSocket timeout set := by
  intro set
  have hset : (view set).WellFormed := step_wellFormed s _ hwell
  rcases h with ⟨hensure, halive⟩
  cases hcrashed : s.crashed with
  | true =>
      rw [step_of_crashed hcrashed, hcrashed] at halive
      cases halive
  | false =>
      have hstep : set = setTimeout s timeout calls none none :=
        step_of_not_crashed hcrashed _
      rw [step_of_not_crashed hcrashed] at halive
      rcases setTimeout_sets (Prod.ext hensure rfl) halive with
        ⟨first, second, hfirst, hsecond, hpointer, hzmq⟩
      refine ⟨hset, Nat.le_refl _, ?_, ?_⟩
      · intro slot hslot socket hsocket _
        rw [hstep, hpointer] at hsocket
        rw [hstep, hzmq]
        have hone : socket = first ∨ socket = second := by
          rcases hslot with heq | heq <;> rw [heq] at hsocket
          · rw [hfirst] at hsocket
            exact Or.inl (Option.some.inj hsocket).symm
          · rw [hsecond] at hsocket
            exact Or.inr (Option.some.inj hsocket).symm
        by_cases hlast : socket = second
        · simp [ZMQHandler.configure, hlast, setRcvtimeo]
        · have heq := hone.resolve_right hlast
          rw [heq] at hlast ⊢
          simp [ZMQHandler.configure, Function.update_of_ne hlast, setRcvtimeo]
      · intro socket hle hlt
        exact absurd hlt (Nat.not_lt_of_le hle)

/-!
## What a receiver finds
-/

theorem polls_slot {op : Operation} {g : Guard} (hg : op.guard = some g)
    (h : op.polls = true) : Polled g.slot ∧ op.setsTimeout = false := by
  cases op with
  | tryToReceiveStatistics calls outcome =>
      cases hg
      exact ⟨Or.inl rfl, rfl⟩
  | tryToReceiveState calls outcome =>
      cases hg
      exact ⟨Or.inr rfl, rfl⟩
  | _ => cases h

theorem enter_present {g : Guard} {s t : State} (hcrashed : s.crashed = false)
    (h : g.enter s = (true, t)) (hpointer : s.pointer g.slot ≠ none) :
    t = s := by
  have hentry := enter_entry (g := g) hcrashed
  rw [h] at hentry
  cases hentry with
  | present _ _ => rfl
  | attached _ _ hrec _ _ _ _ => exact absurd hrec.right.right.right hpointer

theorem enter_created {op : Operation} {g : Guard} {s t : State}
    (hg : op.guard = some g) (hwell : (view s).WellFormed)
    (hcrashed : s.crashed = false) (h : g.enter s = (true, t))
    (hpointer : s.pointer g.slot = none) :
    exists socket, t.pointer g.slot = some socket ∧
      socket ∈ t.zmq.liveSockets ∧ s.zmq.nextSocket ≤ socket ∧
      socket < t.zmq.nextSocket := by
  have hentry := enter_entry (g := g) hcrashed
  rw [h] at hentry
  cases hentry with
  | present hne _ => exact absurd hpointer hne
  | attached _ _ hrec hok hattach hmoves hsame =>
      rcases guard_mem hg with ⟨c, hc, hslot⟩
      have hassigned : g.slot ∈ g.assigned s := by
        rw [Guard.assigned, if_pos hrec, ← hslot]
        exact mem_assignedSlots_of_ok _ hok hc
      have hassigns := generated_assigns g s
      rcases hassigns.pointer_of_mem hassigned with
        ⟨socket, hsocket, hlive, hfresh⟩
      have hissued := (hassigns.wellFormed hwell).pointer_issued g.slot socket
        hsocket
      have ht : t.pointer g.slot = some socket := by
        rw [hsame]
        exact hsocket
      have hview : view t = view (g.generated s) := by
        rcases moves_view hmoves with hview | hview
        · exact hview
        · change (view t).pointer g.slot = some socket at ht
          rw [hview] at ht
          exact absurd rfl (Table.pointer_release_eq_some.mp ht).left
      refine ⟨socket, ht, ?_, Nat.le_of_not_lt hfresh, ?_⟩
      · change socket ∈ (view t).live
        rw [hview]
        exact hlive
      · change socket ∈ (view t).issued
        rw [hview]
        exact hissued

theorem InForce.timeout_iff {mark : SocketId} {timeout : Int} {s : State}
    (h : InForce mark timeout s) {slot : Slot} (hslot : Polled slot)
    {socket : SocketId} (hsocket : s.pointer slot = some socket) :
    (s.zmq.sockets socket).rcvtimeo = timeout <->
      timeout = -1 ∨ socket < mark := by
  have hissued : socket < s.zmq.nextSocket :=
    h.wellFormed.pointer_issued slot socket hsocket
  by_cases hmark : socket < mark
  · exact iff_of_true (h.old slot hslot socket hsocket hmark) (Or.inr hmark)
  · rw [h.new socket (Nat.le_of_not_lt hmark) hissued]
    constructor
    · exact fun heq => Or.inl heq.symm
    · exact fun hor => (hor.resolve_right hmark).symm

theorem keeps_iff_of_passes {mark : SocketId} {timeout : Int} {s t : State}
    {op : Operation} {g : Guard} (h : InForce mark timeout s)
    (hg : op.guard = some g) (hpolls : op.polls = true)
    (hcrashed : s.crashed = false) (henter : g.enter s = (true, t)) :
    KeepsTimeout timeout s op <-> g.FindsTimeout mark timeout s := by
  unfold Guard.FindsTimeout
  cases hpointer : s.pointer g.slot with
  | some socket =>
      have hne : s.pointer g.slot ≠ none := by
        rw [hpointer]
        exact Option.some_ne_none socket
      have heq := enter_present hcrashed henter hne
      subst heq
      rw [keepsTimeout_iff hg hpolls hcrashed henter hpointer,
        h.timeout_iff (polls_slot hg hpolls).left hpointer]
  | none =>
      rcases enter_created hg h.wellFormed hcrashed henter hpointer with
        ⟨socket, hsocket, hlive, hnew, hissued⟩
      have hgrows := (enter_prepares g s).grows
      rw [henter] at hgrows
      rw [keepsTimeout_iff hg hpolls hcrashed henter hsocket,
        hgrows.fresh socket hnew hissued]
      constructor
      · exact fun hboth => hboth.right.symm
      · exact fun heq => ⟨hlive, heq.symm⟩

theorem keeps_iff_finds {mark : SocketId} {timeout : Int} {s : State}
    {op : Operation} (h : InForce mark timeout s) (hpolls : op.polls = true) :
    KeepsTimeout timeout s op <-> FindsTimeout mark timeout s op := by
  cases hg : op.guard with
  | none =>
      rw [guard_eq_none hg] at hpolls
      cases hpolls
  | some g =>
      rw [FindsTimeout, hg]
      cases hcrashed : s.crashed with
      | true =>
          refine iff_of_true ?_ (fun halive => by cases halive)
          intro u hu
          rw [newUses, step_of_crashed hcrashed, List.drop_length] at hu
          cases hu
      | false =>
          have hpasses := entry_passes (enter_entry (g := g) hcrashed)
          cases henter : g.enter s with
          | mk passed t =>
              rw [henter] at hpasses
              cases passed with
              | false =>
                  refine iff_of_true (keepsTimeout_of_blocked hg hcrashed
                    (by rw [henter])) ?_
                  intro _ hpass
                  exact absurd (hpasses.mpr hpass) Bool.false_ne_true
              | true =>
                  rw [keeps_iff_of_passes h hg hpolls hcrashed henter]
                  exact ⟨fun hfinds _ _ => hfinds,
                    fun hfinds => hfinds rfl (hpasses.mp rfl)⟩

/-!
## Runs
-/

/--
While a timeout is in force, a receiver waits for it exactly if its socket has
been there when the timeout was set.
-/
theorem receive_timeout_iff (before between : List Operation) (timeout : Int)
    (calls : Calls) (op : Operation)
    (hset : SetsTimeout (run step State.initial before) timeout calls)
    (hbetween : forall o, o ∈ between -> o.setsTimeout = false)
    (hpolls : op.polls = true) :
    let set := step (run step State.initial before)
      (.setTimeout timeout calls none none)
    KeepsTimeout timeout (run step set between) op <->
      FindsTimeout set.zmq.nextSocket timeout (run step set between) op := by
  intro set
  have hforce := setsTimeout_inForce (run_wellFormed before) hset
  exact keeps_iff_finds (run_inForce hforce hbetween) hpolls

/-- Without an error in between, the timeout stays. -/
theorem receive_timeout_kept :
    KeepsTimeout 100
      (run step (step State.initial (.setTimeout 100 Calls.succeed none none))
        [.tryToReceiveStatistics Calls.succeed .again])
      (.tryToReceiveState Calls.succeed .again) :=
  (receive_timeout_iff [] [.tryToReceiveStatistics Calls.succeed .again] 100
    Calls.succeed (.tryToReceiveState Calls.succeed .again) (by decide)
    (by decide) rfl).mpr (by decide)

/--
After a failed command the next one reconnects, and fails at the port that the old
state receiver still holds.  The new state receiver waits forever.
-/
theorem receive_timeout_lost :
    SetsTimeout State.initial 100 Calls.succeed ∧
    ¬ KeepsTimeout 100
      (run step (step State.initial (.setTimeout 100 Calls.succeed none none))
        [.sendCommand [115] Calls.succeed true (.error 88),
          .sendCommand [115] portTaken true .queued])
      (.tryToReceiveState Calls.succeed .again) := by
  refine ⟨by decide, ?_⟩
  intro hkept
  have hused : (newUses (run step
      (step State.initial (.setTimeout 100 Calls.succeed none none))
      [.sendCommand [115] Calls.succeed true (.error 88),
        .sendCommand [115] portTaken true .queued])
      (.tryToReceiveState Calls.succeed .again)).any
      (fun u => u.call = .recv ∧ u.state.rcvtimeo = -1) := by
    decide
  rcases List.any_eq_true.mp hused with ⟨u, hu, hforever⟩
  rcases of_decide_eq_true hforever with ⟨hcall, htimeout⟩
  have hkeeps := (hkept u hu hcall).right
  rw [htimeout] at hkeeps
  cases hkeeps

end IPCHandler
end Monitoring
end FarmNetworking
