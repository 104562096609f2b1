import FarmNetworking.Monitoring.Moves

/-!
# The tests of an operation

This module computes from the state before an operation and from its label
whether the operation reconnects, which pointers the reconnect assigns, and
whether the operation gets past its tests.
-/

namespace FarmNetworking
namespace Monitoring
namespace IPCHandler

open Foundation
open Socket ZMQHandler

/-- What decides about the way past the tests.  `setTimeout` makes only one. -/
structure Guard where
  tested : Bool
  slot : Slot
  channels : List Channel
  calls : Calls

def Operation.guard : Operation -> Option Guard
  | .updateState _ calls _ => some ⟨true, .stateSender, clientChannels, calls⟩
  | .sendErrorMessage _ calls _ _ =>
      some ⟨true, .statisticsSender, clientChannels, calls⟩
  | .sendStatistics _ _ calls _ _ =>
      some ⟨true, .statisticsSender, clientChannels, calls⟩
  | .sendCommand _ calls _ _ =>
      some ⟨true, .commandSender, serverChannels, calls⟩
  | .getNextCommand calls _ =>
      some ⟨true, .commandReceiver, clientChannels, calls⟩
  | .tryToReceiveStatistics calls _ =>
      some ⟨true, .statisticsReceiver, serverChannels, calls⟩
  | .tryToReceiveState calls _ =>
      some ⟨true, .stateReceiver, serverChannels, calls⟩
  | .setTimeout _ calls _ _ =>
      some ⟨false, .statisticsReceiver, serverChannels, calls⟩
  | .shutDown => none

/-- The pointers that are assigned before a call of `GenerateSocket` throws. -/
def assignedSlots (generate : Slot -> GenerateOutcome)
    (channels : List Channel) : List Slot :=
  (channels.map Channel.slot).takeWhile (fun slot => generate slot = .ok)

namespace Guard

def enter (g : Guard) (s : State) : Bool × State :=
  match g.tested with
  | true => IPCHandler.enter (connectRole g.channels) g.slot g.calls s
  | false => ensure (connectRole g.channels) g.slot g.calls s

def Reconnects (g : Guard) (s : State) : Prop :=
  (g.tested = true -> g.calls.stop = false) ∧ s.zmq.running = true ∧
    g.calls.stopConnect = false ∧ s.pointer g.slot = none

instance Reconnects.decidable (g : Guard) (s : State) :
    Decidable (g.Reconnects s) := by
  unfold Reconnects
  infer_instance

def assigned (g : Guard) (s : State) : List Slot :=
  if g.Reconnects s then assignedSlots g.calls.generate g.channels else []

def generated (g : Guard) (s : State) : State :=
  if g.Reconnects s then (generateAll g.calls.generate g.channels s).2 else s

def Succeeds (g : Guard) : Prop :=
  forall c, c ∈ g.channels ->
    g.calls.generate c.slot = .ok ∧ g.calls.attach c.slot = none

instance Succeeds.decidable (g : Guard) : Decidable g.Succeeds := by
  unfold Succeeds
  infer_instance

def Passes (g : Guard) (s : State) : Prop :=
  (g.tested = true -> g.calls.stop = false ∧ s.zmq.running = true) ∧
    (s.pointer g.slot ≠ none ∨ (g.Reconnects s ∧ g.Succeeds))

instance Passes.decidable (g : Guard) (s : State) :
    Decidable (g.Passes s) := by
  unfold Passes
  infer_instance

end Guard

theorem guard_channels {op : Operation} {g : Guard} (hg : op.guard = some g) :
    g.channels = clientChannels ∨ g.channels = serverChannels := by
  cases op <;> cases hg <;> simp

theorem guard_nodup {op : Operation} {g : Guard} (hg : op.guard = some g) :
    (g.channels.map Channel.slot).Nodup := by
  rcases guard_channels hg with h | h <;> rw [h] <;> decide

theorem guard_mem {op : Operation} {g : Guard} (hg : op.guard = some g) :
    exists c, c ∈ g.channels ∧ c.slot = g.slot := by
  cases op <;> cases hg <;> simp [clientChannels, serverChannels]

/-!
## Creating the sockets of a role
-/

section Generate

variable (generate : Slot -> GenerateOutcome)

theorem assignedSlots_cons_ok (c : Channel) (rest : List Channel)
    (h : generate c.slot = .ok) : assignedSlots generate (c :: rest) =
      c.slot :: assignedSlots generate rest := by
  simp [assignedSlots, h]

theorem assignedSlots_cons_throws (c : Channel) (rest : List Channel)
    (h : generate c.slot ≠ .ok) : assignedSlots generate (c :: rest) = [] := by
  simp [assignedSlots, h]

theorem mem_assignedSlots_of_ok {channels : List Channel}
    (h : forall c, c ∈ channels -> generate c.slot = .ok) {c : Channel}
    (hc : c ∈ channels) : c.slot ∈ assignedSlots generate channels := by
  induction channels with
  | nil => cases hc
  | cons d rest ih =>
      rcases List.forall_mem_cons.mp h with ⟨hd, hrest⟩
      rw [assignedSlots_cons_ok generate d rest hd]
      rcases List.mem_cons.mp hc with heq | hmem
      · rw [heq]
        exact List.mem_cons_self ..
      · exact List.mem_cons_of_mem _ (ih hrest hmem)

theorem assignedSlots_sublist (channels : List Channel) :
    (assignedSlots generate channels).Sublist (channels.map Channel.slot) :=
  List.takeWhile_sublist _

theorem generateAll_cons_ok (c : Channel) (rest : List Channel) (s : State)
    (h : generate c.slot = .ok) :
    exists t, generateAll generate (c :: rest) s = generateAll generate rest t ∧
      view t = (view s).assign c.slot s.zmq.nextSocket ∧
      t.active = s.active ∧ t.crashed = s.crashed ∧ t.uses = s.uses := by
  rcases GenerateSocket_ok s.zmq c.name c.socketType defaultHighWaterMark with
    ⟨zmq, hzmq, hlive, hnext⟩
  refine ⟨{ s with
      zmq := zmq
      pointer := Function.update s.pointer c.slot (some s.zmq.nextSocket) },
    ?_, ?_, rfl, rfl, rfl⟩
  · rw [generateAll, h, hzmq]
  · simp only [view, Table.assign, hlive, hnext]
    congr 1
    · ext socket
      simp [or_comm]
    · ext socket
      simp only [Set.mem_ofPred_eq, Set.mem_insert_iff]
      lia

theorem generateAll_cons_throws (c : Channel) (rest : List Channel) (s : State)
    (h : generate c.slot ≠ .ok) :
    exists t, generateAll generate (c :: rest) s = (false, t) ∧
      Table.Assigns [] (view s) (view t) ∧
      t.active = s.active ∧ t.crashed = s.crashed ∧ t.uses = s.uses := by
  rcases GenerateSocket_throws s.zmq c.name c.socketType defaultHighWaterMark h
    with ⟨zmq, e, hzmq, hlive, hnext⟩
  refine ⟨{ s with zmq := zmq }, ?_, Table.Assigns.nil rfl ?_ ?_, rfl, rfl, rfl⟩
  · rw [generateAll, hzmq]
  · simp only [view, hlive]
  · intro socket hsocket
    exact Nat.lt_of_lt_of_le hsocket hnext

theorem generateAll_assigns (channels : List Channel) (s : State) :
    Table.Assigns (assignedSlots generate channels) (view s)
      (view (generateAll generate channels s).2) := by
  induction channels generalizing s with
  | nil => exact Table.Assigns.refl _
  | cons c rest ih =>
      by_cases h : generate c.slot = .ok
      · rcases generateAll_cons_ok generate c rest s h with ⟨t, ht, hview, _⟩
        rw [ht, assignedSlots_cons_ok generate c rest h]
        refine Table.Assigns.cons s.zmq.nextSocket (Nat.lt_irrefl _) ?_
        rw [← hview]
        exact ih t
      · rcases generateAll_cons_throws generate c rest s h with ⟨t, ht, hview, _⟩
        rw [ht, assignedSlots_cons_throws generate c rest h]
        exact hview

theorem generateAll_frame (channels : List Channel) (s : State) :
    (generateAll generate channels s).2.active = s.active ∧
      (generateAll generate channels s).2.crashed = s.crashed ∧
      (generateAll generate channels s).2.uses = s.uses := by
  induction channels generalizing s with
  | nil => exact ⟨rfl, rfl, rfl⟩
  | cons c rest ih =>
      by_cases h : generate c.slot = .ok
      · rcases generateAll_cons_ok generate c rest s h with
          ⟨t, ht, _, hactive, hcrashed, huses⟩
        rw [ht, ← hactive, ← hcrashed, ← huses]
        exact ih t
      · rcases generateAll_cons_throws generate c rest s h with
          ⟨t, ht, _, hrest⟩
        rw [ht]
        exact hrest

theorem generateAll_fst (channels : List Channel) (s : State) :
    (generateAll generate channels s).1 = true <->
      forall c, c ∈ channels -> generate c.slot = .ok := by
  induction channels generalizing s with
  | nil => simp [generateAll]
  | cons c rest ih =>
      rw [List.forall_mem_cons]
      by_cases h : generate c.slot = .ok
      · rcases generateAll_cons_ok generate c rest s h with ⟨t, ht, _⟩
        rw [ht, ih t, and_iff_right h]
      · rcases generateAll_cons_throws generate c rest s h with ⟨t, ht, _⟩
        rw [ht]
        simp [h]

theorem generateAll_pointer {channels : List Channel} {s : State}
    (h : (generateAll generate channels s).1 = true) {c : Channel}
    (hc : c ∈ channels) :
    (generateAll generate channels s).2.pointer c.slot ≠ none := by
  have hok := (generateAll_fst generate channels s).mp h
  have hmem := mem_assignedSlots_of_ok generate hok hc
  rcases (generateAll_assigns generate channels s).pointer_of_mem hmem with
    ⟨socket, hsocket, _⟩
  change (view (generateAll generate channels s).2).pointer c.slot ≠ none
  rw [hsocket]
  exact Option.some_ne_none socket

end Generate

/-!
## Attaching them
-/

theorem attachAll_spec (slot : Slot) (attach : Slot -> Option Errno)
    (channels : List Channel) (s : State) (hcrashed : s.crashed = false)
    (hpointer : forall c, c ∈ channels -> s.pointer c.slot ≠ none) :
    Moves false slot s (attachAll attach channels s).2 ∧
      (attachAll attach channels s).2.pointer = s.pointer ∧
      ((attachAll attach channels s).1 = true <->
        forall c, c ∈ channels -> attach c.slot = none) := by
  induction channels generalizing s with
  | nil =>
      refine ⟨Relation.ReflTransGen.refl, rfl, ?_⟩
      simp [attachAll]
  | cons c rest ih =>
      have hc := hpointer c (List.mem_cons_self ..)
      have huse : Moves false slot s (s.use .attach c.slot) :=
        Move.single (Move.use .attach c.slot hc)
      have hused : (s.use .attach c.slot).crashed = false :=
        (use_crashed .attach hc).trans hcrashed
      rw [attachAll, List.forall_mem_cons]
      rw [hused, if_neg Bool.false_ne_true]
      cases hattach : attach c.slot with
      | some e => exact ⟨huse, use_pointer s .attach c.slot, by simp⟩
      | none =>
          rcases ih ((s.use .attach c.slot).configure c.slot
              (addEndpoint c.endpoint))
            (by rw [configure_crashed, hused])
            (by
              intro d hd
              rw [configure_pointer, use_pointer]
              exact hpointer d (List.mem_cons_of_mem c hd)) with
            ⟨hmoves, hsame, hfst⟩
          refine ⟨?_, ?_, ?_⟩
          · exact (huse.tail (Move.configure c.slot _)).trans hmoves
          · rw [hsame, configure_pointer, use_pointer]
          · rw [hfst]
            exact (and_iff_right rfl).symm

/-!
## The way past the tests
-/

inductive Entry (g : Guard) (s : State) : Bool × State -> Prop where
  | blocked (stop : Bool) : ¬ g.Reconnects s -> ¬ g.Passes s ->
      Entry g s (false, s.interrupt stop)
  | present : s.pointer g.slot ≠ none -> g.Passes s -> Entry g s (true, s)
  | failed : g.Reconnects s ->
      ¬ (forall c, c ∈ g.channels -> g.calls.generate c.slot = .ok) ->
      Entry g s (false, g.generated s)
  | attached (ok : Bool) (t : State) : g.Reconnects s ->
      (forall c, c ∈ g.channels -> g.calls.generate c.slot = .ok) ->
      (ok = true <-> forall c, c ∈ g.channels -> g.calls.attach c.slot = none) ->
      Moves false g.slot (g.generated s) t -> t.pointer = (g.generated s).pointer ->
      Entry g s (ok, t)

theorem interrupt_running {s : State} {stop : Bool}
    (h : ¬ (stop = false ∧ s.zmq.running = true)) :
    (s.interrupt stop).zmq.running = false := by
  cases stop with
  | true => rfl
  | false => exact Bool.eq_false_iff.mpr fun hrunning => h ⟨rfl, hrunning⟩

theorem connectRole_blocked {channels : List Channel} {calls : Calls}
    {s : State} (h : ¬ (calls.stopConnect = false ∧ s.zmq.running = true)) :
    connectRole channels calls s = (false, s.interrupt calls.stopConnect) := by
  simp [connectRole, interrupt_running h]

theorem connectRole_running {channels : List Channel} {calls : Calls}
    {s : State} (hstop : calls.stopConnect = false)
    (hrunning : s.zmq.running = true) :
    connectRole channels calls s =
      match generateAll calls.generate channels s with
      | (false, s) => (false, s)
      | (true, s) => attachAll calls.attach channels s := by
  have hpasses : ¬ (!s.zmq.running) = true := by
    rw [hrunning]
    exact Bool.false_ne_true
  unfold connectRole
  rw [hstop]
  exact if_neg hpasses

/--
A connect that gets to its `try` block stops at a call of `GenerateSocket`, or it
sets all pointers of the role and goes on to attach their sockets.
-/
theorem connectRole_cases (channels : List Channel) {calls : Calls}
    {s : State} (hcrashed : s.crashed = false)
    (hstop : calls.stopConnect = false) (hrunning : s.zmq.running = true) :
    let t := (generateAll calls.generate channels s).2
    (connectRole channels calls s = (false, t) ∧
      ¬ (forall c, c ∈ channels -> calls.generate c.slot = .ok)) ∨
    (connectRole channels calls s = attachAll calls.attach channels t ∧
      t.crashed = false ∧
      (forall c, c ∈ channels -> calls.generate c.slot = .ok) ∧
      forall c, c ∈ channels -> t.pointer c.slot ≠ none) := by
  intro t
  have hfst := generateAll_fst calls.generate channels s
  have hframe := generateAll_frame calls.generate channels s
  cases hok : (generateAll calls.generate channels s).1 with
  | false =>
      have hgen : generateAll calls.generate channels s = (false, t) :=
        Prod.ext hok rfl
      left
      constructor
      · rw [connectRole_running hstop hrunning, hgen]
      · intro hall
        rw [hfst.mpr hall] at hok
        cases hok
  | true =>
      have hgen : generateAll calls.generate channels s = (true, t) :=
        Prod.ext hok rfl
      right
      refine ⟨?_, hframe.right.left.trans hcrashed, hfst.mp hok, ?_⟩
      · rw [connectRole_running hstop hrunning, hgen]
      · intro c hc
        exact generateAll_pointer calls.generate hok hc

theorem enter_blocked {connect : Calls -> State -> Bool × State} {slot : Slot}
    {calls : Calls} {s : State}
    (h : ¬ (calls.stop = false ∧ s.zmq.running = true)) :
    enter connect slot calls s = (false, s.interrupt calls.stop) := by
  simp [enter, interrupt_running h]

theorem enter_running {connect : Calls -> State -> Bool × State} {slot : Slot}
    {calls : Calls} {s : State} (hstop : calls.stop = false)
    (hrunning : s.zmq.running = true) :
    enter connect slot calls s = ensure connect slot calls s := by
  simp [enter, hstop, hrunning]

section Entry

variable {g : Guard} {s : State}

theorem generated_of_reconnects (h : g.Reconnects s) :
    g.generated s = (generateAll g.calls.generate g.channels s).2 :=
  if_pos h

theorem connectRole_entry (hcrashed : s.crashed = false)
    (h : g.Reconnects s) : Entry g s (connectRole g.channels g.calls s) := by
  rcases h with ⟨htested, hrunning, hstop, hnull⟩
  have hrec : g.Reconnects s := ⟨htested, hrunning, hstop, hnull⟩
  have hgenerated := generated_of_reconnects hrec
  rcases connectRole_cases g.channels hcrashed hstop hrunning with
    ⟨hconnect, hfails⟩ | ⟨hconnect, halive, hok, hpointer⟩
  · rw [hconnect, ← hgenerated]
    exact Entry.failed hrec hfails
  · rw [← hgenerated] at hconnect halive hpointer
    rcases attachAll_spec g.slot g.calls.attach g.channels _ halive hpointer with
      ⟨hmoves, hsame, hattach⟩
    rw [hconnect]
    exact Entry.attached _ _ hrec hok hattach hmoves hsame

theorem ensure_entry (hcrashed : s.crashed = false)
    (htested : g.tested = true -> g.calls.stop = false ∧ s.zmq.running = true) :
    Entry g s (ensure (connectRole g.channels) g.slot g.calls s) := by
  unfold ensure
  cases hpointer : s.pointer g.slot with
  | some socket =>
      have hne : s.pointer g.slot ≠ none := by
        rw [hpointer]
        exact Option.some_ne_none socket
      exact Entry.present hne ⟨htested, Or.inl hne⟩
  | none =>
      by_cases hrec : g.Reconnects s
      · exact connectRole_entry hcrashed hrec
      · change Entry g s (connectRole g.channels g.calls s)
        rw [connectRole_blocked fun h => hrec
          ⟨fun ht => (htested ht).left, h.right, h.left, hpointer⟩]
        refine Entry.blocked _ hrec ?_
        rintro ⟨_, hne | ⟨hpasses, _⟩⟩
        · exact hne hpointer
        · exact hrec hpasses

theorem enter_entry (hcrashed : s.crashed = false) :
    Entry g s (g.enter s) := by
  unfold Guard.enter
  cases htested : g.tested with
  | false =>
      exact ensure_entry hcrashed (fun h => by rw [htested] at h; cases h)
  | true =>
      by_cases htest : g.calls.stop = false ∧ s.zmq.running = true
      · change Entry g s (IPCHandler.enter _ _ _ _)
        rw [enter_running htest.left htest.right]
        exact ensure_entry hcrashed (fun _ => htest)
      · change Entry g s (IPCHandler.enter _ _ _ _)
        rw [enter_blocked htest]
        refine Entry.blocked _ ?_ (fun hpasses => htest (hpasses.left htested))
        intro hrec
        exact htest ⟨hrec.left htested, hrec.right.left⟩

theorem entry_passes {e : Bool × State} (h : Entry g s e) :
    e.1 = true <-> g.Passes s := by
  cases h with
  | blocked stop hrec hpasses =>
      exact iff_of_false Bool.false_ne_true hpasses
  | present hne hpasses => exact iff_of_true rfl hpasses
  | failed hrec hfails =>
      refine iff_of_false Bool.false_ne_true ?_
      rintro ⟨_, hne | ⟨_, hsucceeds⟩⟩
      · exact hne hrec.right.right.right
      · exact hfails fun c hc => (hsucceeds c hc).left
  | attached ok t hrec hok hattach hmoves hpointer =>
      rw [hattach]
      constructor
      · intro hall
        exact ⟨fun htested => ⟨hrec.left htested, hrec.right.left⟩,
          Or.inr ⟨hrec, fun c hc => ⟨hok c hc, hall c hc⟩⟩⟩
      · rintro ⟨_, hne | ⟨_, hsucceeds⟩⟩
        · exact absurd hrec.right.right.right hne
        · exact fun c hc => (hsucceeds c hc).right

theorem generated_of_not_reconnects (h : ¬ g.Reconnects s) :
    g.generated s = s :=
  if_neg h

theorem entry_moves {e : Bool × State} (h : Entry g s e) :
    Moves false g.slot (g.generated s) e.2 := by
  cases h with
  | blocked stop hrec hpasses =>
      rw [generated_of_not_reconnects hrec]
      exact Move.single (Move.interrupt stop)
  | present hne hpasses =>
      rw [generated_of_not_reconnects fun hrec => hne hrec.right.right.right]
      exact Relation.ReflTransGen.refl
  | failed hrec hfails => exact Relation.ReflTransGen.refl
  | attached ok t hrec hok hattach hmoves hpointer => exact hmoves

theorem generated_assigns (g : Guard) (s : State) :
    Table.Assigns (g.assigned s) (view s) (view (g.generated s)) := by
  unfold Guard.assigned Guard.generated
  split
  · exact generateAll_assigns g.calls.generate g.channels s
  · exact Table.Assigns.refl _

theorem generated_frame (g : Guard) (s : State) :
    (g.generated s).active = s.active ∧ (g.generated s).crashed = s.crashed ∧
      (g.generated s).uses = s.uses := by
  unfold Guard.generated
  split
  · exact generateAll_frame g.calls.generate g.channels s
  · exact ⟨rfl, rfl, rfl⟩

theorem entry_crashed {e : Bool × State} (h : Entry g s e)
    (hcrashed : s.crashed = false) : e.2.crashed = false := by
  rw [moves_crashed (entry_moves h), (generated_frame g s).right.left]
  exact hcrashed

/--
Behind the tests the tested pointer is not null.  The other pointers of the role
are not null either if the operation has reconnected.
-/
theorem entry_pointer {t : State} (h : Entry g s (true, t)) :
    (s.pointer g.slot ≠ none ∧ t = s) ∨
      forall c, c ∈ g.channels -> t.pointer c.slot ≠ none := by
  cases h with
  | present hne hpasses => exact Or.inl ⟨hne, rfl⟩
  | attached _ _ hrec hok hattach hmoves hpointer =>
      right
      intro c hc
      rw [hpointer, generated_of_reconnects hrec]
      exact generateAll_pointer g.calls.generate
        ((generateAll_fst g.calls.generate g.channels s).mpr hok) hc

end Entry

end IPCHandler
end Monitoring
end FarmNetworking
