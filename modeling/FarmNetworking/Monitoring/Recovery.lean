import FarmNetworking.Monitoring.Registry

/-!
# Recovery of one channel

After an error the pointer of one channel is null while the other two channels
of the role are up.  The next operation on the failed channel reconnects the
whole role.  The other two channels come through unharmed only if the reconnect
gives up before it gets to the first of them.
-/

namespace FarmNetworking
namespace Monitoring
namespace IPCHandler

open Foundation Runs
open Socket ZMQHandler

def Attached (s : State) (c : Channel) (socket : SocketId) : Prop :=
  s.pointer c.slot = some socket ∧ socket ∈ s.zmq.liveSockets ∧
    c.endpoint ∈ (s.zmq.sockets socket).endpoints

instance Attached.decidable (s : State) (c : Channel) (socket : SocketId) :
    Decidable (Attached s c socket) := by
  unfold Attached
  infer_instance

structure ChannelFailed (s : State) (g : Guard) : Prop where
  alive : s.crashed = false
  null : s.pointer g.slot = none
  others : forall c, c ∈ g.channels -> c.slot ≠ g.slot ->
    exists socket, Attached s c socket

/--
The other channels keep their sockets, and no port gets a second holder while the
first one still holds it.
-/
structure Undisturbed (s s' : State) (g : Guard) : Prop where
  others : forall c, c ∈ g.channels -> c.slot ≠ g.slot -> forall socket,
    Attached s c socket -> Attached s' c socket
  ports : forall address holder other,
    s.zmq.Holds holder (.bound address) ->
      s'.zmq.Holds holder (.bound address) ->
        s'.zmq.Holds other (.bound address) ->
          other = holder ∨ s.zmq.Holds other (.bound address)

namespace Guard

/--
A call of `GenerateSocket` throws before a pointer of another channel has been
assigned.
-/
def FailsFirst (g : Guard) : Prop :=
  match g.channels with
  | a :: b :: _ => g.calls.generate a.slot ≠ .ok ∨
      (a.slot = g.slot ∧ g.calls.generate b.slot ≠ .ok)
  | _ => False

/-- `IsRunning` is false at one of the tests, or `GenerateSocket` throws early. -/
def GivesUp (g : Guard) (s : State) : Prop :=
  s.zmq.running = false ∨ (g.tested = true ∧ g.calls.stop = true) ∨
    g.calls.stopConnect = true ∨ g.FailsFirst

instance FailsFirst.decidable (g : Guard) : Decidable g.FailsFirst := by
  unfold FailsFirst
  split <;> infer_instance

instance GivesUp.decidable (g : Guard) (s : State) :
    Decidable (g.GivesUp s) := by
  unfold GivesUp
  infer_instance

end Guard

/-!
## Which pointers are assigned
-/

theorem guard_first_two {op : Operation} {g : Guard}
    (hg : op.guard = some g) :
    exists a b rest, g.channels = a :: b :: rest ∧ a.slot ≠ b.slot := by
  rcases guard_channels hg with h | h <;> rw [h] <;>
    exact ⟨_, _, _, rfl, by decide⟩

theorem failsFirst_iff {op : Operation} {g : Guard} (hg : op.guard = some g) :
    g.FailsFirst <-> forall c, c ∈ g.channels -> c.slot ≠ g.slot ->
      c.slot ∉ assignedSlots g.calls.generate g.channels := by
  rcases guard_first_two hg with ⟨a, b, rest, hchannels, hne⟩
  rw [Guard.FailsFirst, hchannels]
  constructor
  · rintro (hfirst | ⟨hslot, hsecond⟩) c _ hc
    · rw [assignedSlots_cons_throws _ a (b :: rest) hfirst]
      exact List.not_mem_nil
    · by_cases hfirst : g.calls.generate a.slot = .ok
      · rw [assignedSlots_cons_ok _ a (b :: rest) hfirst,
          assignedSlots_cons_throws _ b rest hsecond, List.mem_singleton, hslot]
        exact hc
      · rw [assignedSlots_cons_throws _ a (b :: rest) hfirst]
        exact List.not_mem_nil
  · intro hfree
    by_contra hlate
    rw [not_or, not_not, not_and, not_not] at hlate
    rcases hlate with ⟨hfirst, hsecond⟩
    rw [assignedSlots_cons_ok _ a (b :: rest) hfirst] at hfree
    by_cases hslot : a.slot = g.slot
    · refine hfree b (by simp) (fun h => hne (hslot.trans h.symm)) ?_
      rw [assignedSlots_cons_ok _ b rest (hsecond hslot)]
      simp
    · exact hfree a (List.mem_cons_self ..) hslot (List.mem_cons_self ..)

theorem givesUp_iff {op : Operation} {g : Guard} {s : State}
    (hg : op.guard = some g) (hnull : s.pointer g.slot = none) :
    g.GivesUp s <-> forall c, c ∈ g.channels -> c.slot ≠ g.slot ->
      c.slot ∉ g.assigned s := by
  by_cases hrec : g.Reconnects s
  · have hreached : g.GivesUp s <-> g.FailsFirst := by
      rcases hrec with ⟨hstop, hrunning, hconnect, _⟩
      constructor
      · rintro (h | ⟨htested, h⟩ | h | h)
        · rw [hrunning] at h
          cases h
        · rw [hstop htested] at h
          cases h
        · rw [hconnect] at h
          cases h
        · exact h
      · exact fun h => Or.inr (Or.inr (Or.inr h))
    rw [hreached, failsFirst_iff hg, Guard.assigned, if_pos hrec]
  · rw [Guard.assigned, if_neg hrec]
    refine iff_of_true ?_ (fun c _ _ => List.not_mem_nil)
    by_contra hstays
    unfold Guard.GivesUp at hstays
    push Not at hstays
    rcases hstays with ⟨hrunning, hstop, hconnect, _⟩
    refine hrec ⟨fun htested => ?_, ?_, ?_, hnull⟩
    · exact Bool.eq_false_iff.mpr (hstop htested)
    · exact Bool.eq_true_of_not_eq_false hrunning
    · exact Bool.eq_false_iff.mpr hconnect

/-!
## What a reconnect leaves alone
-/

theorem generateAll_holds {generate : Slot -> GenerateOutcome}
    {channels : List Channel} {s : State} {socket : SocketId}
    {endpoint : Endpoint}
    (h : (generateAll generate channels s).2.zmq.Holds socket endpoint) :
    s.zmq.Holds socket endpoint := by
  induction channels generalizing s with
  | nil => exact h
  | cons c rest ih =>
      have hholds : (GenerateSocket s.zmq c.name c.socketType
          defaultHighWaterMark (generate c.slot)).1.Holds socket endpoint ->
          s.zmq.Holds socket endpoint :=
        GenerateSocket_holds s.zmq c.name c.socketType _ _
      unfold generateAll at h
      split at h
      · next zmq e hgenerate =>
          rw [hgenerate] at hholds
          exact hholds h
      · next zmq new hgenerate =>
          rw [hgenerate] at hholds
          exact hholds (ih h)

theorem generateAll_sockets {generate : Slot -> GenerateOutcome}
    {channels : List Channel} {s : State} {socket : SocketId}
    (h : socket < s.zmq.nextSocket) :
    (generateAll generate channels s).2.zmq.sockets socket =
      s.zmq.sockets socket := by
  induction channels generalizing s with
  | nil => rfl
  | cons c rest ih =>
      have hsame := GenerateSocket_sockets s.zmq c.name c.socketType
        defaultHighWaterMark (generate c.slot) h
      have hnext := GenerateSocket_nextSocket s.zmq c.name c.socketType
        defaultHighWaterMark (generate c.slot)
      unfold generateAll
      split
      · next zmq e hgenerate =>
          rw [hgenerate] at hsame
          exact hsame
      · next zmq new hgenerate =>
          rw [hgenerate] at hsame hnext
          exact (ih (Nat.lt_of_lt_of_le h hnext)).trans hsame

theorem generated_undisturbed {g : Guard} {s : State}
    (hwell : (view s).WellFormed) (hrec : g.Reconnects s)
    (hfree : forall c, c ∈ g.channels -> c.slot ≠ g.slot ->
      c.slot ∉ g.assigned s) : Undisturbed s (g.generated s) g := by
  have hassigns := generated_assigns g s
  constructor
  · rintro c hc hslot socket ⟨hpointer, hlive, hendpoint⟩
    have hissued : socket < s.zmq.nextSocket :=
      hwell.pointer_issued c.slot socket hpointer
    refine ⟨?_, hassigns.live_subset hlive, ?_⟩
    · exact (hassigns.pointer_of_notMem (hfree c hc hslot)).trans hpointer
    · rw [generated_of_reconnects hrec, generateAll_sockets hissued]
      exact hendpoint
  · intro address holder other _ _ hother
    rw [generated_of_reconnects hrec] at hother
    exact Or.inr (generateAll_holds hother)

theorem interrupt_undisturbed (s : State) (stop : Bool) (g : Guard) :
    Undisturbed s (s.interrupt stop) g := by
  cases stop <;>
    exact ⟨fun c _ _ socket h => h, fun _ _ _ _ _ h => Or.inr h⟩

/-!
## The next operation on the failed channel
-/

theorem perform_undisturbed {op : Operation} {g : Guard} {s : State}
    (hg : op.guard = some g) (hwell : (view s).WellFormed)
    (hfailed : ChannelFailed s g)
    (hfree : forall c, c ∈ g.channels -> c.slot ≠ g.slot ->
      c.slot ∉ g.assigned s) : Undisturbed s (perform s op) g := by
  have hentry := enter_entry (g := g) hfailed.alive
  cases henter : g.enter s with
  | mk passed t =>
      rw [henter] at hentry
      cases hentry with
      | blocked stop hrec hpasses =>
          rw [perform_blocked hg henter]
          exact interrupt_undisturbed s stop g
      | present hne hpasses => exact absurd hfailed.null hne
      | failed hrec hfails =>
          rw [perform_blocked hg henter]
          exact generated_undisturbed hwell hrec hfree
      | attached _ _ hrec hok hattach hmoves hpointer =>
          -- all pointers have been assigned, the one of another channel too
          rcases guard_first_two hg with ⟨a, b, rest, hchannels, hne⟩
          have hassigned : forall c, c ∈ g.channels ->
              c.slot ∈ g.assigned s := by
            intro c hc
            rw [Guard.assigned, if_pos hrec]
            exact mem_assignedSlots_of_ok _ hok hc
          by_cases hslot : a.slot = g.slot
          · have hb : b ∈ g.channels := by simp [hchannels]
            exact absurd (hassigned b hb)
              (hfree b hb fun h => hne (hslot.trans h.symm))
          · have ha : a ∈ g.channels := by simp [hchannels]
            exact absurd (hassigned a ha) (hfree a ha hslot)

theorem perform_disturbs {op : Operation} {g : Guard} {s : State}
    (hg : op.guard = some g) (hwell : (view s).WellFormed)
    (hfailed : ChannelFailed s g) {c : Channel} (hc : c ∈ g.channels)
    (hslot : c.slot ≠ g.slot) (hassigned : c.slot ∈ g.assigned s) :
    ¬ Undisturbed s (perform s op) g := by
  intro hundisturbed
  rcases hfailed.others c hc hslot with ⟨socket, hattached⟩
  have hkept := (hundisturbed.others c hc hslot socket hattached).left
  rcases (generated_assigns g s).pointer_of_mem hassigned with
    ⟨new, hnew, _, hfresh⟩
  have hsame : some new = some socket := by
    rw [← hkept, perform_pointer hg hfailed.alive hslot]
    exact hnew.symm
  rw [Option.some.inj hsame] at hfresh
  exact hfresh (hwell.pointer_issued c.slot socket hattached.left)

theorem recovery_undisturbed_iff (ops : List Operation) (op : Operation)
    (g : Guard) (hg : op.guard = some g)
    (hfailed : ChannelFailed (run step State.initial ops) g) :
    Undisturbed (run step State.initial ops)
        (step (run step State.initial ops) op) g <->
      g.GivesUp (run step State.initial ops) := by
  have hwell := run_wellFormed ops
  rw [step_of_not_crashed hfailed.alive, givesUp_iff hg hfailed.null]
  constructor
  · intro hundisturbed c hc hslot hassigned
    exact perform_disturbs hg hwell hfailed hc hslot hassigned hundisturbed
  · exact perform_undisturbed hg hwell hfailed

/-!
## The statistics receiver fails
-/

/-- All three sockets are bound, and a `recv` throws. -/
def lostStatistics : List Operation :=
  [.tryToReceiveState Calls.succeed .again,
    .tryToReceiveStatistics Calls.succeed (.error 88)]

theorem lostStatistics_failed (calls : Calls) :
    ChannelFailed (run step State.initial lostStatistics)
      ⟨true, .statisticsReceiver, serverChannels, calls⟩ := by
  have hothers : forall c, c ∈ serverChannels ->
      c.slot ≠ .statisticsReceiver -> exists socket, socket ∈ [0, 2] ∧
        Attached (run step State.initial lostStatistics) c socket := by
    decide
  constructor
  · rfl
  · rfl
  · intro c hc hslot
    rcases hothers c hc hslot with ⟨socket, _, hattached⟩
    exact ⟨socket, hattached⟩

def noDescriptors : Calls :=
  { Calls.succeed with generate := fun _ => .constructorThrows 24 }

theorem recovery_undisturbed_noDescriptors :
    Undisturbed (run step State.initial lostStatistics)
      (step (run step State.initial lostStatistics)
        (.tryToReceiveStatistics noDescriptors .again))
      ⟨true, .statisticsReceiver, serverChannels, noDescriptors⟩ :=
  (recovery_undisturbed_iff lostStatistics
    (.tryToReceiveStatistics noDescriptors .again) _ rfl
    (lostStatistics_failed noDescriptors)).mpr (by decide)

def portTaken : Calls :=
  { Calls.succeed with
    attach := fun slot => if slot = .stateReceiver then some 98 else none }

theorem recovery_loses_stateReceiver :
    ChannelFailed (run step State.initial lostStatistics)
        ⟨true, .statisticsReceiver, serverChannels, portTaken⟩ ∧
      ¬ Undisturbed (run step State.initial lostStatistics)
        (step (run step State.initial lostStatistics)
          (.tryToReceiveStatistics portTaken .again))
        ⟨true, .statisticsReceiver, serverChannels, portTaken⟩ := by
  refine ⟨lostStatistics_failed portTaken, ?_⟩
  intro hundisturbed
  have hkept := hundisturbed.others
    { slot := .stateReceiver, name := "stateReceiver_", socketType := .pull,
      endpoint := .bound "tcp://*:4500" }
    (List.mem_cons_self ..) (by decide) 0 (by decide)
  exact absurd hkept.left (by decide)

end IPCHandler
end Monitoring
end FarmNetworking
