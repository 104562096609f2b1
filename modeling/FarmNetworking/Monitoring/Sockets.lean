import FarmNetworking.Monitoring.Registry

/-!
# What the operations do to their sockets

The tests of an operation may add sockets and attach them.  Behind the tests only
`setTimeout` changes anything that a socket has stored, and a message goes through
the tested pointer.
-/

namespace FarmNetworking
namespace Monitoring
namespace IPCHandler

open Foundation Runs
open Socket ZMQHandler

/-!
## The tests
-/

/-- Calls that are made before an operation is past its tests. -/
structure Prepares (s t : State) : Prop where
  grows : Grows s.zmq t.zmq
  uses : exists log, t.uses = s.uses ++ log ∧
    forall u, u ∈ log -> u.call = .attach

theorem Prepares.of_uses {s t : State} (hgrows : Grows s.zmq t.zmq)
    (huses : t.uses = s.uses) : Prepares s t :=
  ⟨hgrows, [], by rw [huses, List.append_nil],
    fun _ hu => absurd hu List.not_mem_nil⟩

theorem Prepares.refl (s : State) : Prepares s s :=
  Prepares.of_uses (Grows.refl s.zmq) rfl

theorem Prepares.trans {s t r : State} (h : Prepares s t)
    (h' : Prepares t r) : Prepares s r := by
  rcases h.uses with ⟨log, huses, hlog⟩
  rcases h'.uses with ⟨more, huses', hmore⟩
  refine ⟨h.grows.trans h'.grows, log ++ more, ?_, ?_⟩
  · rw [huses', huses, List.append_assoc]
  · intro u hu
    rcases List.mem_append.mp hu with hold | hnew
    · exact hlog u hold
    · exact hmore u hnew

theorem Prepares.mem_uses {s t : State} (h : Prepares s t) {u : Use}
    (hu : u ∈ t.uses) : u ∈ s.uses ∨ u.call = .attach := by
  rcases h.uses with ⟨log, huses, hlog⟩
  rw [huses] at hu
  rcases List.mem_append.mp hu with hold | hnew
  · exact Or.inl hold
  · exact Or.inr (hlog u hnew)

def Use.of (call : Call) (slot : Slot) (socket : SocketId) (s : State) : Use where
  call := call
  slot := slot
  socket := socket
  live := decide (socket ∈ s.zmq.liveSockets)
  state := s.zmq.sockets socket

theorem use_uses {s : State} (call : Call) {slot : Slot} {socket : SocketId}
    (h : s.pointer slot = some socket) :
    (s.use call slot).uses = s.uses ++ [Use.of call slot socket s] := by
  rw [State.use, h]
  rfl

theorem mem_use_uses {s : State} {call : Call} {slot : Slot} {u : Use}
    (hu : u ∈ (s.use call slot).uses) : u ∈ s.uses ∨
      (u.call = call ∧ u.slot = slot ∧ s.pointer slot = some u.socket ∧
        u.state = s.zmq.sockets u.socket) := by
  cases hpointer : s.pointer slot with
  | none =>
      rw [use_null hpointer] at hu
      exact Or.inl hu
  | some socket =>
      rw [use_uses call hpointer] at hu
      rcases List.mem_append.mp hu with hold | hnew
      · exact Or.inl hold
      · rw [List.mem_singleton.mp hnew]
        exact Or.inr ⟨rfl, rfl, rfl, rfl⟩

theorem interrupt_prepares (s : State) (stop : Bool) :
    Prepares s (s.interrupt stop) := by
  cases stop with
  | true => exact Prepares.of_uses (Grows.of_sockets rfl rfl) rfl
  | false => exact Prepares.refl s

theorem use_prepares (s : State) (slot : Slot) :
    Prepares s (s.use .attach slot) := by
  have hgrows : Grows s.zmq (s.use .attach slot).zmq := by
    rw [use_zmq]
    exact Grows.refl s.zmq
  cases hpointer : s.pointer slot with
  | none => exact Prepares.of_uses hgrows (by rw [use_null hpointer])
  | some socket =>
      refine ⟨hgrows, _, use_uses .attach hpointer, ?_⟩
      intro u hu
      rw [List.mem_singleton.mp hu]
      rfl

theorem configure_prepares (s : State) (slot : Slot) (endpoint : Endpoint) :
    Prepares s (s.configure slot (addEndpoint endpoint)) := by
  unfold State.configure
  split
  · exact Prepares.refl s
  · next socket _ =>
      exact Prepares.of_uses (addEndpoint_grows s.zmq socket endpoint) rfl

theorem generateAll_prepares (generate : Slot -> GenerateOutcome)
    (channels : List Channel) (s : State) :
    Prepares s (generateAll generate channels s).2 := by
  induction channels generalizing s with
  | nil => exact Prepares.refl s
  | cons c rest ih =>
      have hgrows := GenerateSocket_grows s.zmq c.name c.socketType
        defaultHighWaterMark (generate c.slot)
      unfold generateAll
      split
      · next zmq e hgenerate =>
          rw [hgenerate] at hgrows
          exact Prepares.of_uses hgrows rfl
      · next zmq new hgenerate =>
          rw [hgenerate] at hgrows
          have hfirst : Prepares s { s with
              zmq := zmq
              pointer := Function.update s.pointer c.slot (some new) } :=
            Prepares.of_uses hgrows rfl
          exact hfirst.trans (ih _)

theorem attachAll_prepares (attach : Slot -> Option Errno)
    (channels : List Channel) (s : State) :
    Prepares s (attachAll attach channels s).2 := by
  induction channels generalizing s with
  | nil => exact Prepares.refl s
  | cons c rest ih =>
      have huse := use_prepares s c.slot
      unfold attachAll
      dsimp only
      split
      · exact huse
      · split
        · exact huse
        · exact (huse.trans (configure_prepares _ c.slot c.endpoint)).trans (ih _)

theorem connectRole_prepares (channels : List Channel) (calls : Calls)
    (s : State) : Prepares s (connectRole channels calls s).2 := by
  have hstop := interrupt_prepares s calls.stopConnect
  have hgenerate := generateAll_prepares calls.generate channels
    (s.interrupt calls.stopConnect)
  unfold connectRole
  dsimp only
  split
  · exact hstop
  · split
    · next t hgen =>
        rw [hgen] at hgenerate
        exact hstop.trans hgenerate
    · next t hgen =>
        rw [hgen] at hgenerate
        exact (hstop.trans hgenerate).trans
          (attachAll_prepares calls.attach channels t)

theorem ensure_prepares (channels : List Channel) (slot : Slot)
    (calls : Calls) (s : State) :
    Prepares s (ensure (connectRole channels) slot calls s).2 := by
  unfold ensure
  split
  · exact Prepares.refl s
  · exact connectRole_prepares channels calls s

theorem enter_prepares (g : Guard) (s : State) : Prepares s (g.enter s).2 := by
  have hstop := interrupt_prepares s g.calls.stop
  unfold Guard.enter
  split
  · unfold enter
    dsimp only
    split
    · exact hstop
    · exact hstop.trans (ensure_prepares g.channels g.slot g.calls _)
  · exact ensure_prepares g.channels g.slot g.calls s

/-!
## Behind the tests
-/

/-- Messages that go through one pointer.  No pointer is set, but one may be lost. -/
structure Serves (slot : Slot) (s t : State) : Prop where
  next : t.zmq.nextSocket = s.zmq.nextSocket
  sockets : t.zmq.sockets = s.zmq.sockets
  pointer : forall other socket, t.pointer other = some socket ->
    s.pointer other = some socket
  uses : forall u, u ∈ t.uses -> u ∈ s.uses ∨
    (u.slot = slot ∧ s.pointer slot = some u.socket ∧
      u.state = s.zmq.sockets u.socket)

theorem Serves.trans {slot : Slot} {s t r : State} (h : Serves slot s t)
    (h' : Serves slot t r) : Serves slot s r := by
  refine ⟨h'.next.trans h.next, h'.sockets.trans h.sockets, ?_, ?_⟩
  · intro other socket hsocket
    exact h.pointer other socket (h'.pointer other socket hsocket)
  · intro u hu
    rcases h'.uses u hu with hold | ⟨hslot, hpointer, hstate⟩
    · exact h.uses u hold
    · rw [h.sockets] at hstate
      exact Or.inr ⟨hslot, h.pointer slot u.socket hpointer, hstate⟩

theorem use_serves (s : State) (call : Call) (slot : Slot) :
    Serves slot s (s.use call slot) := by
  refine ⟨by rw [use_zmq], by rw [use_zmq], ?_, ?_⟩
  · intro other socket hsocket
    rwa [use_pointer] at hsocket
  · intro u hu
    rcases mem_use_uses hu with hold | ⟨_, hrest⟩
    · exact Or.inl hold
    · exact Or.inr hrest

theorem destroy_uses {s : State} {slot : Slot} {socket : SocketId}
    (h : s.pointer slot = some socket) : (s.destroy slot).uses =
      s.uses ++ [Use.of .destroy slot socket s] := by
  rw [State.destroy, h]
  rfl

theorem mem_destroy_uses {s : State} {slot : Slot} {u : Use}
    (hu : u ∈ (s.destroy slot).uses) : u ∈ s.uses ∨
      (u.call = .destroy ∧ u.slot = slot ∧ s.pointer slot = some u.socket ∧
        u.state = s.zmq.sockets u.socket) := by
  cases hpointer : s.pointer slot with
  | none =>
      rw [State.destroy, hpointer] at hu
      exact Or.inl hu
  | some socket =>
      rw [destroy_uses hpointer] at hu
      rcases List.mem_append.mp hu with hold | hnew
      · exact Or.inl hold
      · rw [List.mem_singleton.mp hnew]
        exact Or.inr ⟨rfl, rfl, rfl, rfl⟩

theorem destroy_sockets (s : State) (slot : Slot) :
    (s.destroy slot).zmq.nextSocket = s.zmq.nextSocket ∧
      (s.destroy slot).zmq.sockets = s.zmq.sockets := by
  unfold State.destroy
  split <;> exact ⟨rfl, rfl⟩

theorem drop_serves (s : State) (slot : Slot) :
    Serves slot s (s.drop slot) := by
  rcases destroy_sockets s slot with ⟨hnext, hsockets⟩
  refine ⟨hnext, hsockets, ?_, ?_⟩
  · intro other socket hsocket
    change Function.update s.pointer slot none other = some socket at hsocket
    by_cases hother : other = slot
    · rw [hother, Function.update_self] at hsocket
      cases hsocket
    · rwa [Function.update_of_ne hother] at hsocket
  · intro u hu
    rcases mem_destroy_uses hu with hold | ⟨_, hrest⟩
    · exact Or.inl hold
    · exact Or.inr hrest

theorem act_serves {flags : Bool} {slot : Slot} {s t : State}
    (hact : Act flags slot s t) : Serves slot s t := by
  cases hact with
  | use call hpointer => exact use_serves s call slot
  | transmit message =>
      unfold State.transmit
      split <;> exact ⟨rfl, rfl, fun _ _ h => h, fun _ h => Or.inl h⟩
  | setActive up hflags => exact ⟨rfl, rfl, fun _ _ h => h, fun _ h => Or.inl h⟩
  | drop => exact drop_serves s slot

theorem acts_serves {flags : Bool} {slot : Slot} {s t : State}
    (hacts : Acts flags slot s t) : Serves slot s t := by
  induction hacts with
  | refl => exact ⟨rfl, rfl, fun _ _ h => h, fun _ h => Or.inl h⟩
  | tail _ hact ih => exact ih.trans (act_serves hact)

theorem perform_serves {op : Operation} {g : Guard} {s : State}
    (hg : op.guard = some g) (htested : g.tested = true)
    (hcrashed : s.crashed = false) :
    ((g.enter s).1 = false ∧ perform s op = (g.enter s).2) ∨
      ((g.enter s).1 = true ∧ Serves g.slot (g.enter s).2 (perform s op)) := by
  cases henter : g.enter s with
  | mk passed t =>
      cases passed with
      | false => exact Or.inl ⟨rfl, perform_blocked hg henter⟩
      | true =>
          exact Or.inr ⟨rfl, acts_serves (perform_acts hg htested hcrashed henter)⟩

/-!
## Closing the sockets
-/

theorem closeInactive_sockets (s : State) (slot : Slot) :
    (closeInactive s slot).zmq.nextSocket = s.zmq.nextSocket ∧
      (closeInactive s slot).zmq.sockets = s.zmq.sockets := by
  unfold closeInactive
  split
  · exact ⟨rfl, rfl⟩
  · exact destroy_sockets s slot

theorem closeAll_sockets (slots : List Slot) (s : State) :
    (slots.foldl closeInactive s).zmq.nextSocket = s.zmq.nextSocket ∧
      (slots.foldl closeInactive s).zmq.sockets = s.zmq.sockets := by
  induction slots generalizing s with
  | nil => exact ⟨rfl, rfl⟩
  | cons slot rest ih =>
      rcases closeInactive_sockets s slot with ⟨hnext, hsockets⟩
      rw [List.foldl_cons, ← hnext, ← hsockets]
      exact ih (closeInactive s slot)

theorem closeAll_destroys {slots : List Slot} {s : State} {u : Use}
    (hu : u ∈ (slots.foldl closeInactive s).uses) :
    u ∈ s.uses ∨ u.call = .destroy := by
  induction slots generalizing s with
  | nil => exact Or.inl hu
  | cons slot rest ih =>
      rcases ih hu with hold | hcall
      · unfold closeInactive at hold
        split at hold
        · exact Or.inl hold
        · rcases mem_destroy_uses hold with holder | ⟨hcall, _⟩
          · exact Or.inl holder
          · exact Or.inr hcall
      · exact Or.inr hcall

/-!
## Everything but timeouts
-/

def Operation.setsTimeout : Operation -> Bool
  | .setTimeout _ _ _ _ => true
  | _ => false

theorem guard_tested {op : Operation} {g : Guard} (hg : op.guard = some g)
    (h : op.setsTimeout = false) : g.tested = true := by
  cases op with
  | setTimeout timeout calls first second => cases h
  | shutDown => cases hg
  | _ =>
      cases hg
      rfl

theorem step_grows {op : Operation} (s : State)
    (h : op.setsTimeout = false) : Grows s.zmq (step s op).zmq := by
  apply step_cases (P := fun t => Grows s.zmq t.zmq)
  · exact fun _ => Grows.refl s.zmq
  · intro _
    rcases closeAll_sockets shutDownOrder s with ⟨hnext, hsockets⟩
    exact Grows.of_sockets hnext hsockets
  · intro g hg hcrashed
    have henter := (enter_prepares g s).grows
    rcases perform_serves hg (guard_tested hg h) hcrashed with
      ⟨_, heq⟩ | ⟨_, hserves⟩
    · rw [heq]
      exact henter
    · exact henter.trans (Grows.of_sockets hserves.next hserves.sockets)

theorem step_pointer {s : State} {op : Operation} {slot : Slot}
    {socket : SocketId} : (step s op).pointer slot = some socket ->
      s.pointer slot = some socket ∨ s.zmq.nextSocket ≤ socket := by
  apply step_cases (P := fun t => t.pointer slot = some socket ->
    s.pointer slot = some socket ∨ s.zmq.nextSocket ≤ socket)
  · exact fun _ hold => Or.inl hold
  · intro _ hold
    rw [shutDown, (closeAll_frame shutDownOrder s).left] at hold
    exact Or.inl hold
  · intro g hg hcrashed hpointer
    rcases perform_view hg hcrashed with ⟨t, hassigns, hview⟩
    have ht : t.pointer slot = some socket := by
      change (view (perform s op)).pointer slot = some socket at hpointer
      rcases hview with heq | heq <;> rw [heq] at hpointer
      · exact hpointer
      · exact (Table.pointer_release_eq_some.mp hpointer).right
    by_cases hmem : slot ∈ g.assigned s
    · rcases hassigns.pointer_of_mem hmem with ⟨new, hnew, _, hfresh⟩
      rw [ht] at hnew
      rw [← Option.some.inj hnew] at hfresh
      exact Or.inr (Nat.le_of_not_lt hfresh)
    · rw [hassigns.pointer_of_notMem hmem] at ht
      exact Or.inl ht

/-!
## Timeouts
-/

theorem configure_setRcvtimeo_endpoints (s : State) (slot : Slot)
    (timeout : Int) (socket : SocketId) :
    ((s.configure slot (setRcvtimeo timeout)).zmq.sockets socket).endpoints =
      (s.zmq.sockets socket).endpoints := by
  unfold State.configure
  split
  · rfl
  · next configured _ =>
      by_cases hsocket : socket = configured
      · simp [ZMQHandler.configure, setRcvtimeo, hsocket]
      · simp [ZMQHandler.configure, Function.update_of_ne hsocket]

/-- The two options are all that `setTimeout` changes behind its test. -/
structure Times (s t : State) : Prop where
  pointer : t.pointer = s.pointer
  endpoints : forall socket, (t.zmq.sockets socket).endpoints =
    (s.zmq.sockets socket).endpoints
  uses : forall u, u ∈ t.uses -> u ∈ s.uses ∨ u.call = .setsockopt

theorem Times.trans {s t r : State} (h : Times s t) (h' : Times t r) :
    Times s r := by
  refine ⟨h'.pointer.trans h.pointer, ?_, ?_⟩
  · intro socket
    exact (h'.endpoints socket).trans (h.endpoints socket)
  · intro u hu
    rcases h'.uses u hu with hold | hcall
    · exact h.uses u hold
    · exact Or.inr hcall

theorem use_times (s : State) (slot : Slot) :
    Times s (s.use .setsockopt slot) := by
  refine ⟨use_pointer s .setsockopt slot, fun socket => by rw [use_zmq], ?_⟩
  intro u hu
  rcases mem_use_uses hu with hold | ⟨hcall, _⟩
  · exact Or.inl hold
  · exact Or.inr hcall

theorem configure_times (s : State) (slot : Slot) (timeout : Int) :
    Times s (s.configure slot (setRcvtimeo timeout)) := by
  refine ⟨configure_pointer s slot _,
    configure_setRcvtimeo_endpoints s slot timeout, ?_⟩
  intro u hu
  rw [configure_uses] at hu
  exact Or.inl hu

theorem setTimeout_times {s t : State} {timeout : Int} {calls : Calls}
    {first second : Option Errno}
    (h : ensure bindServer .statisticsReceiver calls s = (true, t)) :
    Times t (setTimeout s timeout calls first second) := by
  have hfirst := use_times t .statisticsReceiver
  simp only [setTimeout, h]
  split
  · exact hfirst
  · have hsecond := (hfirst.trans (configure_times _ .statisticsReceiver
      timeout)).trans (use_times _ .stateReceiver)
    split
    · exact hsecond
    · exact hsecond.trans (configure_times _ .stateReceiver timeout)

end IPCHandler
end Monitoring
end FarmNetworking
