import FarmNetworking.Monitoring.Recovery
import FarmNetworking.Monitoring.Sockets

/-!
# Connects that fail half-way

`connectClient` and `bindServer` assign their three pointers as they go and take
nothing back when a later call throws.  The next operation finds a pointer that
is not null and uses a socket that is not attached to anything.
-/

namespace FarmNetworking
namespace Monitoring
namespace IPCHandler

open Foundation Runs
open Socket ZMQHandler

def Atomic (connect : Calls -> State -> Bool × State) (calls : Calls)
    (s : State) : Prop :=
  (connect calls s).1 = false ->
    (connect calls s).2.pointer = s.pointer ∧
      (connect calls s).2.zmq.allSockets = s.zmq.allSockets

/-- The connect is not begun, or fails at its first call, or does not fail. -/
def AllOrNothing (channels : List Channel) (calls : Calls) (s : State) :
    Prop :=
  calls.stopConnect = true ∨ s.zmq.running = false ∨
    (forall c, c ∈ channels.take 1 -> calls.generate c.slot ≠ .ok) ∨
    forall c, c ∈ channels ->
      calls.generate c.slot = .ok ∧ calls.attach c.slot = none

instance AllOrNothing.decidable (channels : List Channel) (calls : Calls)
    (s : State) : Decidable (AllOrNothing channels calls s) := by
  unfold AllOrNothing
  infer_instance

def ConnectsWhole (s : State) (op : Operation) : Prop :=
  match op.guard with
  | none => True
  | some g => g.Reconnects s -> AllOrNothing g.channels g.calls s

instance ConnectsWhole.decidable (s : State) (op : Operation) :
    Decidable (ConnectsWhole s op) := by
  unfold ConnectsWhole
  split <;> infer_instance

def UsesAttached (s : State) : Prop :=
  forall u, u ∈ s.uses -> u.call = .send ∨ u.call = .recv ->
    forall c, c ∈ clientChannels ++ serverChannels -> c.slot = u.slot ->
      c.endpoint ∈ u.state.endpoints

/-!
## One connect
-/

theorem attachAll_allSockets (attach : Slot -> Option Errno)
    (channels : List Channel) (s : State) :
    (attachAll attach channels s).2.zmq.allSockets = s.zmq.allSockets := by
  induction channels generalizing s with
  | nil => rfl
  | cons c rest ih =>
      have huse : (s.use .attach c.slot).zmq.allSockets = s.zmq.allSockets := by
        rw [use_zmq]
      unfold attachAll
      dsimp only
      split
      · exact huse
      · split
        · exact huse
        · rw [ih, configure_allSockets]
          exact huse

theorem generateAll_recorded (generate : Slot -> GenerateOutcome)
    (channels : List Channel) (s : State) :
    (generateAll generate channels s).2.zmq.allSockets.length =
      s.zmq.allSockets.length + (assignedSlots generate channels).length := by
  induction channels generalizing s with
  | nil => rfl
  | cons c rest ih =>
      have hsockets := GenerateSocket_allSockets s.zmq c.name c.socketType
        defaultHighWaterMark (generate c.slot)
      by_cases hok : generate c.slot = .ok
      · rw [assignedSlots_cons_ok generate c rest hok, generateAll, hok]
        rw [hok, if_pos rfl] at hsockets
        change (generateAll generate rest _).2.zmq.allSockets.length = _
        rw [ih]
        change (GenerateSocket s.zmq c.name c.socketType defaultHighWaterMark
          .ok).1.allSockets.length + _ = _
        rw [hsockets, List.length_append, List.length_cons]
        simp only [List.length_cons, List.length_nil]
        lia
      · rw [assignedSlots_cons_throws generate c rest hok]
        rw [if_neg hok, List.append_nil] at hsockets
        rcases GenerateSocket_throws s.zmq c.name c.socketType
          defaultHighWaterMark hok with ⟨zmq, e, hgenerate, _⟩
        rw [hgenerate] at hsockets
        rw [generateAll, hgenerate]
        exact congrArg List.length hsockets

/-- A first call that throws leaves nothing behind that is recorded. -/
theorem generateAll_first_throws (generate : Slot -> GenerateOutcome)
    (c : Channel) (rest : List Channel) (s : State)
    (h : generate c.slot ≠ .ok) :
    exists t, generateAll generate (c :: rest) s = (false, t) ∧
      t.pointer = s.pointer ∧ t.zmq.allSockets = s.zmq.allSockets := by
  have hsockets := GenerateSocket_allSockets s.zmq c.name c.socketType
    defaultHighWaterMark (generate c.slot)
  rw [if_neg h, List.append_nil] at hsockets
  rcases GenerateSocket_throws s.zmq c.name c.socketType defaultHighWaterMark h
    with ⟨zmq, e, hgenerate, _⟩
  rw [hgenerate] at hsockets
  refine ⟨{ s with zmq := zmq }, ?_, rfl, hsockets⟩
  rw [generateAll, hgenerate]

section Connect

variable (channels : List Channel) {calls : Calls} {s : State}

theorem connectRole_fst (hcrashed : s.crashed = false)
    (hstop : calls.stopConnect = false) (hrunning : s.zmq.running = true) :
    (connectRole channels calls s).1 = true <->
      forall c, c ∈ channels ->
        calls.generate c.slot = .ok ∧ calls.attach c.slot = none := by
  rcases connectRole_cases channels hcrashed hstop hrunning with
    ⟨hconnect, hfails⟩ | ⟨hconnect, halive, hok, hpointer⟩
  · rw [hconnect]
    refine iff_of_false Bool.false_ne_true (fun hall => ?_)
    exact hfails fun c hc => (hall c hc).left
  · rcases attachAll_spec .stateSender calls.attach channels _ halive hpointer
      with ⟨_, _, hattach⟩
    rw [hconnect, hattach]
    constructor
    · exact fun hall c hc => ⟨hok c hc, hall c hc⟩
    · exact fun hall c hc => (hall c hc).right

theorem connectRole_recorded (hstop : calls.stopConnect = false)
    (hrunning : s.zmq.running = true) :
    (connectRole channels calls s).2.zmq.allSockets.length =
      s.zmq.allSockets.length +
        (assignedSlots calls.generate channels).length := by
  rw [← generateAll_recorded, connectRole_running hstop hrunning]
  split
  · next hgen => rw [hgen]
  · next hgen => rw [hgen, attachAll_allSockets]

theorem connectRole_first_throws {c : Channel} (rest : List Channel)
    (h : calls.generate c.slot ≠ .ok) (hstop : calls.stopConnect = false)
    (hrunning : s.zmq.running = true) :
    exists t, connectRole (c :: rest) calls s = (false, t) ∧
      t.pointer = s.pointer ∧ t.zmq.allSockets = s.zmq.allSockets := by
  rcases generateAll_first_throws calls.generate c rest s h with
    ⟨t, hgen, hsame⟩
  refine ⟨t, ?_, hsame⟩
  rw [connectRole_running hstop hrunning, hgen]

theorem connectRole_atomic_iff {c : Channel} {rest : List Channel}
    (hcrashed : s.crashed = false) :
    Atomic (connectRole (c :: rest)) calls s <->
      AllOrNothing (c :: rest) calls s := by
  by_cases hbegun : calls.stopConnect = false ∧ s.zmq.running = true
  · rcases hbegun with ⟨hstop, hrunning⟩
    have hfst := connectRole_fst (c :: rest) hcrashed hstop hrunning
    have hrecorded := connectRole_recorded (c :: rest) hstop hrunning
    by_cases hok : calls.generate c.slot = .ok
    · constructor
      · intro hatomic
        right; right; right
        rw [← hfst]
        by_contra hfails
        have hsame := (hatomic (Bool.eq_false_iff.mpr hfails)).right
        rw [hsame, assignedSlots_cons_ok _ c rest hok, List.length_cons]
          at hrecorded
        lia
      · rintro (h | h | h | h) hfalse
        · rw [hstop] at h
          cases h
        · rw [hrunning] at h
          cases h
        · exact absurd hok (h c (List.mem_cons_self ..))
        · rw [hfst.mpr h] at hfalse
          cases hfalse
    · rcases connectRole_first_throws rest hok hstop hrunning with
        ⟨t, hconnect, hsame⟩
      refine iff_of_true ?_ ?_
      · intro _
        rw [hconnect]
        exact hsame
      · right; right; left
        intro d hd
        rw [List.mem_singleton.mp hd]
        exact hok
  · refine iff_of_true ?_ ?_
    · intro _
      rw [connectRole_blocked hbegun]
      cases calls.stopConnect with
      | true => exact ⟨rfl, rfl⟩
      | false => exact ⟨rfl, rfl⟩
    · cases hstop : calls.stopConnect with
      | true => exact Or.inl hstop
      | false =>
          right; left
          exact Bool.eq_false_iff.mpr fun h => hbegun ⟨hstop, h⟩

end Connect

/-!
## Pointers to attached sockets
-/

def ChannelAttached (s : State) (c : Channel) : Prop :=
  forall socket, s.pointer c.slot = some socket ->
    c.endpoint ∈ (s.zmq.sockets socket).endpoints

theorem channelAttached_mono {s t : State} {c : Channel}
    (hwell : (view s).WellFormed) (hgrows : Grows s.zmq t.zmq)
    (hpointer : forall socket, t.pointer c.slot = some socket ->
      s.pointer c.slot = some socket) (h : ChannelAttached s c) :
    ChannelAttached t c := by
  intro socket hsocket
  have hold := hpointer socket hsocket
  have hissued : socket < s.zmq.nextSocket :=
    hwell.pointer_issued c.slot socket hold
  exact hgrows.endpoints socket hissued (h socket hold)

theorem configure_channelAttached {s : State} (c : Channel) :
    ChannelAttached (s.configure c.slot (addEndpoint c.endpoint)) c := by
  intro socket hsocket
  rw [configure_pointer] at hsocket
  rw [State.configure, hsocket]
  simp [ZMQHandler.configure, addEndpoint]

theorem attachAll_attached {attach : Slot -> Option Errno}
    {channels : List Channel} {s : State} (hwell : (view s).WellFormed)
    (hcrashed : s.crashed = false)
    (hpointer : forall c, c ∈ channels -> s.pointer c.slot ≠ none)
    (h : forall c, c ∈ channels -> attach c.slot = none) :
    forall c, c ∈ channels ->
      ChannelAttached (attachAll attach channels s).2 c := by
  induction channels generalizing s with
  | nil => exact fun _ hc => absurd hc List.not_mem_nil
  | cons d rest ih =>
      rcases List.forall_mem_cons.mp h with ⟨hd, hrest⟩
      rcases List.forall_mem_cons.mp hpointer with ⟨hset, hothers⟩
      have hused : (s.use .attach d.slot).crashed = false :=
        (use_crashed .attach hset).trans hcrashed
      have hnext : (view ((s.use .attach d.slot).configure d.slot
          (addEndpoint d.endpoint))).WellFormed := by
        rw [configure_view, use_view]
        exact hwell
      have hconfigured := configure_channelAttached (s := s.use .attach d.slot) d
      have hspec := attachAll_spec d.slot attach rest
        ((s.use .attach d.slot).configure d.slot (addEndpoint d.endpoint))
        (by rw [configure_crashed, hused])
        (by
          intro c hc
          rw [configure_pointer, use_pointer]
          exact hothers c hc)
      rw [attachAll, hused, if_neg Bool.false_ne_true, hd]
      rw [List.forall_mem_cons]
      constructor
      · refine channelAttached_mono hnext
          (attachAll_prepares attach rest _).grows ?_ hconfigured
        intro socket hsocket
        rwa [hspec.right.left] at hsocket
      · refine ih hnext (by rw [configure_crashed, hused]) ?_ hrest
        intro c hc
        rw [configure_pointer, use_pointer]
        exact hothers c hc

theorem generateAll_wellFormed (generate : Slot -> GenerateOutcome)
    (channels : List Channel) {s : State} (hwell : (view s).WellFormed) :
    (view (generateAll generate channels s).2).WellFormed :=
  (generateAll_assigns generate channels s).wellFormed hwell

theorem connectRole_attached {channels : List Channel} {calls : Calls}
    {s : State} (hwell : (view s).WellFormed) (hcrashed : s.crashed = false)
    (hstop : calls.stopConnect = false) (hrunning : s.zmq.running = true)
    (h : forall c, c ∈ channels ->
      calls.generate c.slot = .ok ∧ calls.attach c.slot = none) :
    forall c, c ∈ channels ->
      ChannelAttached (connectRole channels calls s).2 c := by
  rcases connectRole_cases channels hcrashed hstop hrunning with
    ⟨_, hfails⟩ | ⟨hconnect, halive, _, hpointer⟩
  · exact absurd (fun c hc => (h c hc).left) hfails
  · rw [hconnect]
    exact attachAll_attached (generateAll_wellFormed calls.generate channels hwell)
      halive hpointer fun c hc => (h c hc).right

theorem connectRole_pointer_of_notMem {channels : List Channel}
    {calls : Calls} {s : State} (hcrashed : s.crashed = false)
    (hstop : calls.stopConnect = false) (hrunning : s.zmq.running = true)
    {slot : Slot} (hslot : slot ∉ channels.map Channel.slot) :
    (connectRole channels calls s).2.pointer slot = s.pointer slot := by
  have hassigns := generateAll_assigns calls.generate channels s
  have hsame := hassigns.pointer_of_notMem fun hmem =>
    hslot ((assignedSlots_sublist calls.generate channels).subset hmem)
  rcases connectRole_cases channels hcrashed hstop hrunning with
    ⟨hconnect, _⟩ | ⟨hconnect, halive, _, hpointer⟩
  · rw [hconnect]
    exact hsame
  · have hspec := attachAll_spec slot calls.attach channels _ halive hpointer
    rw [hconnect, hspec.right.left]
    exact hsame

/-!
## Operations
-/

structure AllAttached (s : State) : Prop where
  pointers : forall c, c ∈ clientChannels ++ serverChannels ->
    ChannelAttached s c
  uses : UsesAttached s

theorem channel_of_slot {c d : Channel}
    (hc : c ∈ clientChannels ++ serverChannels)
    (hd : d ∈ clientChannels ++ serverChannels) (h : c.slot = d.slot) :
    c = d := by
  have hnodup : ((clientChannels ++ serverChannels).map Channel.slot).Nodup := by
    decide
  exact List.inj_on_of_nodup_map hnodup hc hd h

theorem guard_subset {op : Operation} {g : Guard} (hg : op.guard = some g) :
    g.channels ⊆ clientChannels ++ serverChannels := by
  rcases guard_channels hg with h | h <;> rw [h]
  · exact List.subset_append_left _ _
  · exact List.subset_append_right _ _

theorem enter_of_reconnects {g : Guard} {s : State} (h : g.Reconnects s) :
    g.enter s = connectRole g.channels g.calls s := by
  rcases h with ⟨htested, hrunning, _, hnull⟩
  have hensure : ensure (connectRole g.channels) g.slot g.calls s =
      connectRole g.channels g.calls s := by
    rw [ensure, hnull]
  unfold Guard.enter
  split
  · next htrue => rw [enter_running (htested htrue) hrunning, hensure]
  · exact hensure

theorem enter_of_not_reconnects {g : Guard} {s : State}
    (hcrashed : s.crashed = false) (h : ¬ g.Reconnects s) :
    exists stop, (g.enter s).2 = s.interrupt stop := by
  have hentry := enter_entry (g := g) hcrashed
  generalize g.enter s = e at hentry
  cases hentry with
  | blocked stop _ _ => exact ⟨stop, rfl⟩
  | present _ _ => exact ⟨false, rfl⟩
  | failed hrec _ => exact absurd hrec h
  | attached _ _ hrec _ _ _ _ => exact absurd hrec h

theorem enter_channelAttached {op : Operation} {g : Guard} {s : State}
    (hg : op.guard = some g) (hwell : (view s).WellFormed)
    (hcrashed : s.crashed = false)
    (hwhole : g.Reconnects s -> AllOrNothing g.channels g.calls s)
    {c : Channel} (hc : c ∈ clientChannels ++ serverChannels)
    (h : ChannelAttached s c) : ChannelAttached (g.enter s).2 c := by
  have hgrows := (enter_prepares g s).grows
  by_cases hrec : g.Reconnects s
  · rw [enter_of_reconnects hrec] at hgrows ⊢
    rcases hrec with ⟨htested, hrunning, hstop, hnull⟩
    rcases hwhole ⟨htested, hrunning, hstop, hnull⟩ with
      hblocked | hblocked | hfirst | hall
    · rw [hstop] at hblocked
      cases hblocked
    · rw [hrunning] at hblocked
      cases hblocked
    · rcases guard_first_two hg with ⟨a, b, rest, hchannels, _⟩
      rw [hchannels] at hfirst hgrows ⊢
      rcases connectRole_first_throws (b :: rest)
        (hfirst a (List.mem_cons_self ..)) hstop hrunning with
        ⟨t, hconnect, hpointer, _⟩
      rw [hconnect] at hgrows ⊢
      refine channelAttached_mono hwell hgrows ?_ h
      intro socket hsocket
      rwa [hpointer] at hsocket
    · by_cases hslot : c.slot ∈ g.channels.map Channel.slot
      · rcases List.mem_map.mp hslot with ⟨d, hd, heq⟩
        rw [channel_of_slot hc (guard_subset hg hd) heq.symm]
        exact connectRole_attached hwell hcrashed hstop hrunning hall d hd
      · refine channelAttached_mono hwell hgrows ?_ h
        intro socket hsocket
        rwa [connectRole_pointer_of_notMem hcrashed hstop hrunning hslot]
          at hsocket
  · rcases enter_of_not_reconnects hcrashed hrec with ⟨stop, henter⟩
    refine channelAttached_mono hwell hgrows ?_ h
    intro socket hsocket
    rwa [henter, interrupt_pointer] at hsocket

theorem enter_usesAttached {g : Guard} {s : State} (h : UsesAttached s) :
    UsesAttached (g.enter s).2 := by
  intro u hu hcall
  rcases (enter_prepares g s).mem_uses hu with hold | hattach
  · exact h u hold hcall
  · rw [hattach] at hcall
    rcases hcall with hcall | hcall <;> cases hcall

theorem serves_allAttached {slot : Slot} {s t : State} (h : AllAttached s)
    (hserves : Serves slot s t) : AllAttached t := by
  constructor
  · intro c hc socket hsocket
    rw [hserves.sockets]
    exact h.pointers c hc socket (hserves.pointer c.slot socket hsocket)
  · intro u hu hcall c hc hslot
    rcases hserves.uses u hu with hold | ⟨huse, hpointer, hstate⟩
    · exact h.uses u hold hcall c hc hslot
    · rw [hstate]
      refine h.pointers c hc u.socket ?_
      rw [hslot, huse]
      exact hpointer

theorem times_allAttached {s t : State} (h : AllAttached s)
    (htimes : Times s t) : AllAttached t := by
  constructor
  · intro c hc socket hsocket
    rw [htimes.endpoints]
    rw [htimes.pointer] at hsocket
    exact h.pointers c hc socket hsocket
  · intro u hu hcall
    rcases htimes.uses u hu with hold | hother
    · exact h.uses u hold hcall
    · rw [hother] at hcall
      rcases hcall with hcall | hcall <;> cases hcall

theorem shutDown_allAttached {s : State} (h : AllAttached s) :
    AllAttached (shutDown s) := by
  constructor
  · intro c hc socket hsocket
    rw [shutDown, (closeAll_frame shutDownOrder s).left] at hsocket
    rw [shutDown, (closeAll_sockets shutDownOrder s).right]
    exact h.pointers c hc socket hsocket
  · intro u hu hcall
    rcases closeAll_destroys hu with hold | hother
    · exact h.uses u hold hcall
    · rw [hother] at hcall
      rcases hcall with hcall | hcall <;> cases hcall

theorem perform_allAttached {op : Operation} {g : Guard} {s : State}
    (hg : op.guard = some g) (hwell : (view s).WellFormed)
    (hcrashed : s.crashed = false)
    (hwhole : g.Reconnects s -> AllOrNothing g.channels g.calls s)
    (h : AllAttached s) : AllAttached (perform s op) := by
  have henter : AllAttached (g.enter s).2 :=
    ⟨fun c hc => enter_channelAttached hg hwell hcrashed hwhole hc
      (h.pointers c hc), enter_usesAttached h.uses⟩
  cases htested : g.tested with
  | true =>
      rcases perform_serves hg htested hcrashed with ⟨_, heq⟩ | ⟨_, hserves⟩
      · rw [heq]
        exact henter
      · exact serves_allAttached henter hserves
  | false =>
      cases op with
      | setTimeout timeout calls first second =>
          cases hg
          cases hensure : ensure bindServer .statisticsReceiver calls s with
          | mk passed t =>
              change AllAttached (ensure bindServer .statisticsReceiver calls s).2
                at henter
              rw [hensure] at henter
              cases passed with
              | true => exact times_allAttached henter (setTimeout_times hensure)
              | false =>
                  change AllAttached (setTimeout s timeout calls first second)
                  rw [setTimeout, hensure]
                  exact henter
      | shutDown => cases hg
      | _ =>
          cases hg
          cases htested

/-!
## Runs
-/

theorem initial_allAttached : AllAttached State.initial where
  pointers := nofun
  uses := fun _ hu => absurd hu List.not_mem_nil

theorem step_allAttached {s : State} (op : Operation)
    (hwell : (view s).WellFormed) (h : AllAttached s)
    (hwhole : ConnectsWhole s op) : AllAttached (step s op) := by
  apply step_cases
  · exact fun _ => h
  · exact fun _ => shutDown_allAttached h
  · intro g hg hcrashed
    rw [ConnectsWhole, hg] at hwhole
    exact perform_allAttached hg hwell hcrashed hwhole h

theorem run_usesAttached (ops : List Operation)
    (h : StepsMeet ConnectsWhole step State.initial ops) :
    Along UsesAttached step State.initial ops := by
  have hstep : forall s op, (view s).WellFormed ∧ AllAttached s ->
      ConnectsWhole s op ->
        (view (step s op)).WellFormed ∧ AllAttached (step s op) := by
    rintro s op ⟨hwell, hattached⟩ hwhole
    exact ⟨step_wellFormed s op hwell,
      step_allAttached op hwell hattached hwhole⟩
  exact along_of_stepsMeet hstep (fun _ hboth => hboth.right.uses)
    ⟨initial_wellFormed, initial_allAttached⟩ h

/--
A connect is atomic exactly if it does nothing, fails at once or succeeds.  Where
all connects of a run are like that, no message goes astray.
-/
theorem failed_connect_iff (calls : Calls) (s : State)
    (hcrashed : s.crashed = false) (ops : List Operation) :
    (Atomic connectClient calls s <-> AllOrNothing clientChannels calls s) ∧
      (Atomic bindServer calls s <-> AllOrNothing serverChannels calls s) ∧
      (StepsMeet ConnectsWhole step State.initial ops ->
        Along UsesAttached step State.initial ops) :=
  ⟨connectRole_atomic_iff hcrashed, connectRole_atomic_iff hcrashed,
    run_usesAttached ops⟩

/-- The first socket cannot be created, as when there are no descriptors left. -/
def firstFails : Calls :=
  { Calls.succeed with generate := fun _ => .constructorThrows 24 }

theorem failed_connect_firstFails :
    Atomic connectClient firstFails State.initial ∧
      Atomic bindServer firstFails State.initial ∧
      Along UsesAttached step State.initial
        [.tryToReceiveState firstFails .again,
          .tryToReceiveState Calls.succeed .again] := by
  rcases failed_connect_iff firstFails State.initial rfl
    [.tryToReceiveState firstFails .again,
      .tryToReceiveState Calls.succeed .again] with ⟨hclient, hserver, hruns⟩
  exact ⟨hclient.mpr (by decide), hserver.mpr (by decide),
    hruns (by decide)⟩

/-- Another process holds the port of the command receiver. -/
def commandPortTaken : Calls :=
  { Calls.succeed with
    attach := fun slot => if slot = .commandReceiver then some 98 else none }

/-- The connect fails, and the next operation waits on a socket without a port. -/
theorem failed_connect_leaves_commandReceiver :
    ¬ Atomic connectClient commandPortTaken State.initial ∧
    ¬ Along UsesAttached step State.initial
      [.getNextCommand commandPortTaken .again,
        .getNextCommand Calls.succeed .again] := by
  constructor
  · intro hatomic
    have hset : (connectClient commandPortTaken State.initial).2.pointer
        .commandReceiver = some 2 := by
      decide
    rw [(hatomic (by decide)).left] at hset
    cases hset
  · intro halong
    have hused : (run step State.initial
        [.getNextCommand commandPortTaken .again,
          .getNextCommand Calls.succeed .again]).uses.any
        (fun u => u.call = .recv ∧ u.slot = .commandReceiver ∧
          u.state.endpoints = []) := by
      decide
    rcases List.any_eq_true.mp hused with ⟨u, hu, hbare⟩
    rcases of_decide_eq_true hbare with ⟨hcall, hslot, hempty⟩
    have hattached := along_run halong u hu (Or.inr hcall)
      { slot := .commandReceiver, name := "commandReceiver_",
        socketType := .pull, endpoint := .bound "tcp://*:4502" }
      (by simp [clientChannels]) hslot.symm
    rw [hempty] at hattached
    cases hattached

end IPCHandler
end Monitoring
end FarmNetworking
