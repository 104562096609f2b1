import FarmNetworking.Monitoring.Sockets

/-!
# Channels kept apart

The six pointers stand for the ends of three channels.  A socket is created for
one of them, attached to the endpoint of that one only, and nothing but the
messages of that one goes through it.  This holds in every run, whichever library
calls fail, since it does not depend on which sockets are still designated.

An operation is taken apart into deeds here.  In contrast to a move, a deed says
which endpoint is added and which message is sent.
-/

namespace FarmNetworking
namespace Monitoring
namespace IPCHandler

open Foundation ByteString Runs
open Socket ZMQHandler

def Slot.endpoint : Slot -> Endpoint
  | .stateSender => .connected "tcp://127.0.0.1:4500"
  | .statisticsSender => .connected "tcp://127.0.0.1:4501"
  | .commandSender => .connected "tcp://127.0.0.1:4502"
  | .stateReceiver => .bound "tcp://*:4500"
  | .statisticsReceiver => .bound "tcp://*:4501"
  | .commandReceiver => .bound "tcp://*:4502"

theorem channel_endpoint {c : Channel}
    (hc : c ∈ clientChannels ++ serverChannels) :
    c.endpoint = c.slot.endpoint := by
  simp only [clientChannels, serverChannels, List.cons_append, List.nil_append,
    List.mem_cons, List.not_mem_nil, or_false] at hc
  rcases hc with rfl | rfl | rfl | rfl | rfl | rfl <;> rfl

def errorName : List UInt8 :=
  [69, 114, 114, 111, 114, 77, 101, 115, 115, 97, 103, 101]

def Operation.message? : Operation -> Option (Slot × List UInt8)
  | .updateState newState _ _ =>
      some (.stateSender, leBytes 4 newState.toNat)
  | .sendErrorMessage message _ _ _ =>
      if message = [] then none
      else some (.statisticsSender, errorName ++ 58 :: message)
  | .sendStatistics name values _ _ _ =>
      if name = [] ∨ values = [] then none
      else some (.statisticsSender, name ++ 58 :: values)
  | .sendCommand command _ _ _ =>
      if command = [] then none else some (.commandSender, command)
  | _ => none

/-!
## Deeds
-/

/-- The predicate says which messages may go through which pointer. -/
inductive Deed (C : Slot -> List UInt8 -> Prop) (s : State) : State -> Prop
    where
  | interrupt (stop : Bool) : Deed C s (s.interrupt stop)
  | generate (name : String) (socketType : SocketType)
      (outcome : GenerateOutcome) : outcome ≠ .ok ->
      Deed C s { s with
        zmq := (GenerateSocket s.zmq name socketType defaultHighWaterMark
          outcome).1 }
  | assign (slot : Slot) (name : String) (socketType : SocketType) :
      Deed C s { s with
        zmq := (GenerateSocket s.zmq name socketType defaultHighWaterMark .ok).1
        pointer := Function.update s.pointer slot (some s.zmq.nextSocket) }
  | use (call : Call) (slot : Slot) : Deed C s (s.use call slot)
  | attach (slot : Slot) :
      Deed C s (s.configure slot (addEndpoint slot.endpoint))
  | setRcvtimeo (slot : Slot) (timeout : Int) :
      Deed C s (s.configure slot (setRcvtimeo timeout))
  | transmit (slot : Slot) (message : List UInt8) : C slot message ->
      Deed C s (s.transmit slot message)
  | setActive (slot : Slot) (up : Bool) : Deed C s (s.setActive slot up)
  | destroy (slot : Slot) : Deed C s (s.destroy slot)
  | drop (slot : Slot) : Deed C s (s.drop slot)

def Deeds (C : Slot -> List UInt8 -> Prop) : State -> State -> Prop :=
  Relation.ReflTransGen (Deed C)

section Deeds

variable {C : Slot -> List UInt8 -> Prop}

theorem Deed.single {s t : State} (h : Deed C s t) : Deeds C s t :=
  Relation.ReflTransGen.single h

theorem Deeds.refl (s : State) : Deeds C s s :=
  Relation.ReflTransGen.refl

theorem generateAll_deeds (generate : Slot -> GenerateOutcome)
    (channels : List Channel) (s : State) :
    Deeds C s (generateAll generate channels s).2 := by
  induction channels generalizing s with
  | nil => exact Deeds.refl s
  | cons c rest ih =>
      by_cases hok : generate c.slot = .ok
      · rcases GenerateSocket_ok s.zmq c.name c.socketType defaultHighWaterMark
          with ⟨zmq, hgenerate, _⟩
        have hassign := Deed.assign (C := C) (s := s) c.slot c.name c.socketType
        rw [hgenerate] at hassign
        rw [generateAll, hok, hgenerate]
        exact hassign.single.trans (ih _)
      · rcases GenerateSocket_throws s.zmq c.name c.socketType
          defaultHighWaterMark hok with ⟨zmq, e, hgenerate, _⟩
        have hfail := Deed.generate (C := C) (s := s) c.name c.socketType _ hok
        rw [hgenerate] at hfail
        rw [generateAll, hgenerate]
        exact hfail.single

theorem attachAll_deeds (attach : Slot -> Option Errno)
    {channels : List Channel}
    (h : forall c, c ∈ channels -> c.endpoint = c.slot.endpoint) (s : State) :
    Deeds C s (attachAll attach channels s).2 := by
  induction channels generalizing s with
  | nil => exact Deeds.refl s
  | cons c rest ih =>
      rcases List.forall_mem_cons.mp h with ⟨hc, hrest⟩
      have huse : Deeds C s (s.use .attach c.slot) :=
        (Deed.use .attach c.slot).single
      unfold attachAll
      dsimp only
      split
      · exact huse
      · split
        · exact huse
        · rw [hc]
          exact (huse.tail (Deed.attach c.slot)).trans (ih hrest _)

theorem connectRole_deeds {channels : List Channel}
    (h : forall c, c ∈ channels -> c.endpoint = c.slot.endpoint)
    (calls : Calls) (s : State) :
    Deeds C s (connectRole channels calls s).2 := by
  have hstop : Deeds C s (s.interrupt calls.stopConnect) :=
    (Deed.interrupt calls.stopConnect).single
  have hgenerate := hstop.trans (generateAll_deeds (C := C) calls.generate
    channels (s.interrupt calls.stopConnect))
  unfold connectRole
  dsimp only
  split
  · exact hstop
  · split
    · next t hgen =>
        rw [hgen] at hgenerate
        exact hgenerate
    · next t hgen =>
        rw [hgen] at hgenerate
        exact hgenerate.trans (attachAll_deeds calls.attach h t)

theorem ensure_deeds {channels : List Channel}
    (h : forall c, c ∈ channels -> c.endpoint = c.slot.endpoint) (slot : Slot)
    (calls : Calls) (s : State) :
    Deeds C s (ensure (connectRole channels) slot calls s).2 := by
  unfold ensure
  split
  · exact Deeds.refl s
  · exact connectRole_deeds h calls s

theorem guard_deeds {op : Operation} {g : Guard} (hg : op.guard = some g)
    (s : State) : Deeds C s (g.enter s).2 := by
  have hendpoint : forall c, c ∈ g.channels -> c.endpoint = c.slot.endpoint := by
    intro c hc
    apply channel_endpoint
    rcases guard_channels hg with h | h <;> rw [h] at hc
    · exact List.mem_append_left _ hc
    · exact List.mem_append_right _ hc
  have hstop : Deeds C s (s.interrupt g.calls.stop) :=
    (Deed.interrupt g.calls.stop).single
  unfold Guard.enter
  split
  · unfold enter
    dsimp only
    split
    · exact hstop
    · exact hstop.trans (ensure_deeds hendpoint g.slot g.calls _)
  · exact ensure_deeds hendpoint g.slot g.calls s

/-!
## The operations
-/

theorem failed_deeds (s : State) (slot : Slot) (e : Errno) :
    Deeds C s (s.failed slot e) := by
  unfold State.failed
  split
  · exact (Deed.drop slot).single
  · exact Deeds.refl s

theorem closeAll_deeds (slots : List Slot) (s : State) :
    Deeds C s (slots.foldl closeInactive s) := by
  induction slots generalizing s with
  | nil => exact Deeds.refl s
  | cons slot rest ih =>
      have hclose : Deeds C s (closeInactive s slot) := by
        unfold closeInactive
        split
        · exact Deeds.refl s
        · exact (Deed.destroy slot).single
      exact hclose.trans (ih _)

theorem recv_deeds (s : State) (slot : Slot) :
    Deeds C s ((s.setActive slot true).use .recv slot) :=
  (Deed.setActive slot true).single.tail (Deed.use .recv slot)

theorem setTimeout_deeds {s t : State} {timeout : Int} {calls : Calls}
    {first second : Option Errno}
    (h : ensure bindServer .statisticsReceiver calls s = (true, t)) :
    Deeds C t (setTimeout s timeout calls first second) := by
  have huse : Deeds C t (t.use .setsockopt .statisticsReceiver) :=
    (Deed.use .setsockopt .statisticsReceiver).single
  simp only [setTimeout, h]
  split
  · exact huse
  · have hfirst := huse.tail (Deed.setRcvtimeo .statisticsReceiver timeout)
    have hsecond := hfirst.tail (Deed.use .setsockopt .stateReceiver)
    split
    · exact hsecond
    · exact hsecond.tail (Deed.setRcvtimeo .stateReceiver timeout)

theorem updateState_deeds {s t : State} {newState : STATE} {calls : Calls}
    {outcome : SendOutcome} (hC : C .stateSender (leBytes 4 newState.toNat))
    (h : enter connectClient .stateSender calls s = (true, t)) :
    Deeds C t (updateState s newState calls outcome) := by
  have huse : Deeds C t (t.use .send .stateSender) :=
    (Deed.use .send .stateSender).single
  simp only [updateState, h]
  split
  · exact huse
  · cases outcome with
    | queued => exact huse.tail (Deed.transmit .stateSender _ hC)
    | again => exact huse
    | error e => exact huse

theorem sendStatistics_deeds {s t : State} {name values : List UInt8}
    {calls : Calls} {allocation : Option Errno} {outcome : SendOutcome}
    (hC : name ≠ [] -> values ≠ [] ->
      C .statisticsSender (name ++ 58 :: values))
    (h : enter connectClient .statisticsSender calls s = (true, t)) :
    Deeds C t (sendStatistics s name values calls allocation outcome) := by
  have huse : Deeds C t (t.use .send .statisticsSender) :=
    (Deed.use .send .statisticsSender).single
  simp only [sendStatistics, h]
  split
  · exact Deeds.refl t
  · next hpasses =>
      simp only [Bool.or_eq_true, List.isEmpty_iff, not_or] at hpasses
      rcases hpasses with ⟨⟨⟨_, hname⟩, hvalues⟩, _⟩
      cases outcome with
      | queued =>
          exact huse.tail (Deed.transmit .statisticsSender _ (hC hname hvalues))
      | again => exact huse
      | error e => exact huse

theorem sendCommand_deeds {s t : State} {command : List UInt8} {calls : Calls}
    {connected : Bool} {outcome : SendOutcome}
    (hC : command ≠ [] -> C .commandSender command)
    (h : enter bindServer .commandSender calls s = (true, t)) :
    Deeds C t (sendCommand s command calls connected outcome) := by
  have huse : Deeds C t (t.use .send .commandSender) :=
    (Deed.use .send .commandSender).single
  simp only [sendCommand, h]
  split
  · exact Deeds.refl t
  · next hpasses =>
      simp only [Bool.or_eq_true, List.isEmpty_iff, not_or] at hpasses
      rcases hpasses with ⟨⟨_, hcommand⟩, _⟩
      cases outcome with
      | queued => exact huse.tail (Deed.transmit .commandSender _ (hC hcommand))
      | again => exact huse
      | error e => exact huse.trans (failed_deeds _ _ e)

theorem getNextCommand_deeds {s t : State} {calls : Calls}
    {outcome : RecvOutcome}
    (h : enter connectClient .commandReceiver calls s = (true, t)) :
    Deeds C t (getNextCommand s calls outcome).1 := by
  have hrecv := recv_deeds (C := C) t .commandReceiver
  simp only [getNextCommand, h]
  split
  · exact hrecv
  · cases outcome with
    | message data behind => exact hrecv.tail (Deed.setActive _ false)
    | again => exact hrecv.tail (Deed.setActive _ false)
    | error e => exact hrecv.trans (failed_deeds _ _ e)

theorem tryToReceiveStatistics_deeds {s t : State} {calls : Calls}
    {outcome : RecvOutcome}
    (h : enter bindServer .statisticsReceiver calls s = (true, t)) :
    Deeds C t (tryToReceiveStatistics s calls outcome).1 := by
  have hrecv := recv_deeds (C := C) t .statisticsReceiver
  simp only [tryToReceiveStatistics, h]
  split
  · exact hrecv
  · cases outcome with
    | message data behind => exact hrecv
    | again => exact hrecv.tail (Deed.setActive _ false)
    | error e => exact hrecv.trans (failed_deeds _ _ e)

theorem tryToReceiveState_deeds {s t : State} {calls : Calls}
    {outcome : RecvOutcome}
    (h : enter bindServer .stateReceiver calls s = (true, t)) :
    Deeds C t (tryToReceiveState s calls outcome).1 := by
  have hrecv := recv_deeds (C := C) t .stateReceiver
  simp only [tryToReceiveState, h]
  split
  · exact hrecv
  · cases outcome with
    | message data behind => exact hrecv
    | again => exact hrecv.tail (Deed.setActive _ false)
    | error e => exact hrecv.trans (failed_deeds _ _ e)

theorem perform_deeds (s : State) (op : Operation)
    (hC : forall slot message, op.message? = some (slot, message) ->
      C slot message) : Deeds C s (perform s op) := by
  cases hg : op.guard with
  | none =>
      rw [guard_eq_none hg]
      exact closeAll_deeds shutDownOrder s
  | some g =>
      have hguard := guard_deeds (C := C) hg s
      cases henter : g.enter s with
      | mk passed t =>
          rw [henter] at hguard
          cases passed with
          | false =>
              rw [perform_blocked hg henter]
              exact hguard
          | true =>
              refine hguard.trans ?_
              cases op with
              | updateState newState calls outcome =>
                  cases hg
                  exact updateState_deeds (hC _ _ rfl) henter
              | sendErrorMessage message calls allocation outcome =>
                  cases hg
                  refine sendStatistics_deeds (fun _ hmessage => ?_) henter
                  exact hC _ _ (if_neg hmessage)
              | sendStatistics name values calls allocation outcome =>
                  cases hg
                  refine sendStatistics_deeds (fun hname hvalues => ?_) henter
                  exact hC _ _ (if_neg (not_or.mpr ⟨hname, hvalues⟩))
              | sendCommand command calls connected outcome =>
                  cases hg
                  refine sendCommand_deeds (fun hcommand => ?_) henter
                  exact hC _ _ (if_neg hcommand)
              | getNextCommand calls outcome =>
                  cases hg
                  exact getNextCommand_deeds henter
              | tryToReceiveStatistics calls outcome =>
                  cases hg
                  exact tryToReceiveStatistics_deeds henter
              | tryToReceiveState calls outcome =>
                  cases hg
                  exact tryToReceiveState_deeds henter
              | setTimeout timeout calls first second =>
                  cases hg
                  exact setTimeout_deeds henter
              | shutDown => cases hg

theorem step_deeds (s : State) (op : Operation)
    (hC : forall slot message, op.message? = some (slot, message) ->
      C slot message) : Deeds C s (step s op) := by
  cases hcrashed : s.crashed with
  | true =>
      rw [step_of_crashed hcrashed]
      exact Deeds.refl s
  | false =>
      rw [step_of_not_crashed hcrashed]
      exact perform_deeds s op hC

end Deeds

/-!
## Sockets that serve one pointer
-/

def OnlyAt (socket : SocketState) (slot : Slot) : Prop :=
  forall e, e ∈ socket.endpoints -> e = slot.endpoint

/--
Which pointer a socket was created for is not stored.  What counts is that one
pointer fits both its endpoints and the messages that went through it.
-/
structure Separated (C : Slot -> List UInt8 -> Prop) (s : State) : Prop where
  wellFormed : (view s).WellFormed
  designated : forall slot socket, s.pointer slot = some socket ->
    OnlyAt (s.zmq.sockets socket) slot
  own : forall slot socket, s.pointer slot = some socket ->
    forall message, (socket, message) ∈ s.sent -> C slot message
  sent : forall socket message, (socket, message) ∈ s.sent ->
    socket < s.zmq.nextSocket ∧
      exists slot, OnlyAt (s.zmq.sockets socket) slot ∧ C slot message
  uses : forall u, u ∈ s.uses -> OnlyAt u.state u.slot

theorem initial_separated (C : Slot -> List UInt8 -> Prop) :
    Separated C State.initial where
  wellFormed := initial_wellFormed
  designated := nofun
  own := nofun
  sent := nofun
  uses := fun _ hu => absurd hu List.not_mem_nil

section Separated

variable {C : Slot -> List UInt8 -> Prop} {s t : State}

theorem Separated.issued (h : Separated C s) {slot : Slot}
    {socket : SocketId} (hpointer : s.pointer slot = some socket) :
    socket < s.zmq.nextSocket :=
  h.wellFormed.pointer_issued slot socket hpointer

theorem Separated.mono (h : Separated C s) {D : Slot -> List UInt8 -> Prop}
    (hCD : forall slot message, C slot message -> D slot message) :
    Separated D s := by
  refine ⟨h.wellFormed, h.designated, ?_, ?_, h.uses⟩
  · intro slot socket hpointer message hsent
    exact hCD slot message (h.own slot socket hpointer message hsent)
  · intro socket message hsent
    rcases h.sent socket message hsent with ⟨hissued, slot, honly, hC⟩
    exact ⟨hissued, slot, honly, hCD slot message hC⟩

theorem separated_of_quiet (h : Separated C s) (hwell : (view t).WellFormed)
    (hnext : s.zmq.nextSocket ≤ t.zmq.nextSocket)
    (hpointer : forall slot socket, t.pointer slot = some socket ->
      s.pointer slot = some socket)
    (hendpoints : forall socket, socket < s.zmq.nextSocket ->
      (t.zmq.sockets socket).endpoints = (s.zmq.sockets socket).endpoints)
    (huses : forall u, u ∈ t.uses -> u ∈ s.uses ∨
      (s.pointer u.slot = some u.socket ∧ u.state = s.zmq.sockets u.socket))
    (hsent : t.sent = s.sent) : Separated C t := by
  refine ⟨hwell, ?_, ?_, ?_, ?_⟩
  · intro slot socket hdesignated e he
    have hold := hpointer slot socket hdesignated
    rw [hendpoints socket (h.issued hold)] at he
    exact h.designated slot socket hold e he
  · intro slot socket hdesignated message hmessage
    rw [hsent] at hmessage
    exact h.own slot socket (hpointer slot socket hdesignated) message hmessage
  · intro socket message hmessage
    rw [hsent] at hmessage
    rcases h.sent socket message hmessage with ⟨hissued, slot, honly, hC⟩
    refine ⟨Nat.lt_of_lt_of_le hissued hnext, slot, ?_, hC⟩
    intro e he
    rw [hendpoints socket hissued] at he
    exact honly e he
  · intro u hu
    rcases huses u hu with hold | ⟨hdesignated, hstate⟩
    · exact h.uses u hold
    · rw [hstate]
      exact h.designated u.slot u.socket hdesignated

theorem generate_separated (h : Separated C s) (name : String)
    (socketType : SocketType) {outcome : GenerateOutcome} (hfail : outcome ≠ .ok) :
    Separated C { s with
      zmq := (GenerateSocket s.zmq name socketType defaultHighWaterMark
        outcome).1 } := by
  have hnext := GenerateSocket_nextSocket s.zmq name socketType
    defaultHighWaterMark outcome
  have hlive : (GenerateSocket s.zmq name socketType defaultHighWaterMark
      outcome).1.liveSockets = s.zmq.liveSockets := by
    rcases GenerateSocket_throws s.zmq name socketType defaultHighWaterMark hfail
      with ⟨zmq, e, hgenerate, hsame, _⟩
    rw [hgenerate]
    exact hsame
  refine separated_of_quiet h ?_ hnext (fun _ _ hold => hold) ?_
    (fun _ hu => Or.inl hu) rfl
  · have hassigns : Table.Assigns [] (view s) (view { s with
        zmq := (GenerateSocket s.zmq name socketType defaultHighWaterMark
          outcome).1 }) := by
      refine Table.Assigns.nil rfl ?_ ?_
      · simp only [view, hlive]
      · intro socket hsocket
        exact Nat.lt_of_lt_of_le hsocket hnext
    exact hassigns.wellFormed h.wellFormed
  · intro socket hissued
    rw [GenerateSocket_sockets s.zmq name socketType defaultHighWaterMark outcome
      hissued]

theorem assign_separated (h : Separated C s) (slot : Slot) (name : String)
    (socketType : SocketType) :
    Separated C { s with
      zmq := (GenerateSocket s.zmq name socketType defaultHighWaterMark .ok).1
      pointer := Function.update s.pointer slot (some s.zmq.nextSocket) } := by
  let c : Channel := {
    slot := slot
    name := name
    socketType := socketType
    endpoint := slot.endpoint }
  have hsame : forall socket, socket < s.zmq.nextSocket ->
      (GenerateSocket s.zmq name socketType defaultHighWaterMark .ok).1.sockets
        socket = s.zmq.sockets socket := fun _ hissued =>
    GenerateSocket_sockets s.zmq name socketType defaultHighWaterMark .ok hissued
  have hnew : ((GenerateSocket s.zmq name socketType defaultHighWaterMark
      .ok).1.sockets s.zmq.nextSocket).endpoints = [] := by
    simp [GenerateSocket, configure, construct, setLinger, setSndhwm,
      SocketState.fresh]
  have hcases : forall other socket,
      Function.update s.pointer slot (some s.zmq.nextSocket) other = some socket ->
      socket = s.zmq.nextSocket ∨ s.pointer other = some socket := by
    intro other socket hpointer
    by_cases hother : other = slot
    · rw [hother, Function.update_self] at hpointer
      exact Or.inl (Option.some.inj hpointer).symm
    · rw [Function.update_of_ne hother] at hpointer
      exact Or.inr hpointer
  refine ⟨?_, ?_, ?_, ?_, h.uses⟩
  · exact (generateAll_assigns (fun _ => .ok) [c] s).wellFormed h.wellFormed
  · intro other socket hpointer e he
    rcases hcases other socket hpointer with hfresh | hold
    · rw [hfresh, hnew] at he
      cases he
    · rw [hsame socket (h.issued hold)] at he
      exact h.designated other socket hold e he
  · intro other socket hpointer message hsent
    rcases hcases other socket hpointer with hfresh | hold
    · rw [hfresh] at hsent
      exact absurd (h.sent _ message hsent).left (Nat.lt_irrefl _)
    · exact h.own other socket hold message hsent
  · intro socket message hsent
    rcases h.sent socket message hsent with ⟨hissued, other, honly, hC⟩
    refine ⟨Nat.lt_succ_of_lt hissued, other, ?_, hC⟩
    intro e he
    rw [hsame socket hissued] at he
    exact honly e he

/-- The endpoint of the pointer fits all that went through its socket before. -/
theorem attach_separated (h : Separated C s) (slot : Slot) :
    Separated C (s.configure slot (addEndpoint slot.endpoint)) := by
  unfold State.configure
  split
  · exact h
  · next socket hsocket =>
      have hsockets : forall other, other ≠ socket ->
          (ZMQHandler.configure s.zmq socket
            (addEndpoint slot.endpoint)).sockets other = s.zmq.sockets other :=
        fun other hother => Function.update_of_ne hother ..
      have honly : OnlyAt ((ZMQHandler.configure s.zmq socket
          (addEndpoint slot.endpoint)).sockets socket) slot := by
        intro e he
        simp only [ZMQHandler.configure, Function.update_self, addEndpoint,
          List.mem_append, List.mem_singleton] at he
        exact he.elim (h.designated slot socket hsocket e) id
      refine ⟨h.wellFormed, ?_, h.own, ?_, h.uses⟩
      · intro other designated hother
        by_cases hsame : designated = socket
        · rw [hsame] at hother ⊢
          rw [h.wellFormed.unique other slot socket hother hsocket]
          exact honly
        · change OnlyAt ((ZMQHandler.configure _ _ _).sockets designated) other
          rw [hsockets designated hsame]
          exact h.designated other designated hother
      · intro sender message hsent
        rcases h.sent sender message hsent with ⟨hissued, other, hother, hC⟩
        refine ⟨hissued, ?_⟩
        by_cases hsame : sender = socket
        · rw [hsame] at hsent ⊢
          exact ⟨slot, honly, h.own slot socket hsocket message hsent⟩
        · refine ⟨other, ?_, hC⟩
          rw [hsockets sender hsame]
          exact hother

theorem transmit_separated (h : Separated C s) {slot : Slot}
    {message : List UInt8} (hC : C slot message) :
    Separated C (s.transmit slot message) := by
  unfold State.transmit
  split
  · exact h
  · next socket hsocket =>
      have hcases : forall sender m,
          (sender, m) ∈ s.sent ++ [(socket, message)] ->
          (sender, m) ∈ s.sent ∨ (sender = socket ∧ m = message) := by
        intro sender m hmem
        rcases List.mem_append.mp hmem with hold | hnew
        · exact Or.inl hold
        · exact Or.inr (Prod.mk.inj (List.mem_singleton.mp hnew))
      refine ⟨h.wellFormed, h.designated, ?_, ?_, h.uses⟩
      · intro other designated hother m hsent
        rcases hcases designated m hsent with hold | ⟨hsame, hm⟩
        · exact h.own other designated hother m hold
        · rw [hsame] at hother
          rw [h.wellFormed.unique other slot socket hother hsocket, hm]
          exact hC
      · intro sender m hsent
        rcases hcases sender m hsent with hold | ⟨hsame, hm⟩
        · exact h.sent sender m hold
        · rw [hsame, hm]
          exact ⟨h.issued hsocket, slot, h.designated slot socket hsocket, hC⟩

theorem use_sent (s : State) (call : Call) (slot : Slot) :
    (s.use call slot).sent = s.sent := by
  unfold State.use
  split <;> rfl

theorem destroy_sent (s : State) (slot : Slot) :
    (s.destroy slot).sent = s.sent := by
  unfold State.destroy
  split <;> rfl

theorem use_separated (h : Separated C s) (call : Call) (slot : Slot) :
    Separated C (s.use call slot) := by
  refine separated_of_quiet h ?_ ?_ ?_ ?_ ?_ (use_sent s call slot)
  · rw [use_view]
    exact h.wellFormed
  · rw [use_zmq]
  · intro other socket hpointer
    rwa [use_pointer] at hpointer
  · intro socket _
    rw [use_zmq]
  · intro u hu
    rcases mem_use_uses hu with hold | ⟨_, hslot, hpointer, hstate⟩
    · exact Or.inl hold
    · rw [← hslot] at hpointer
      exact Or.inr ⟨hpointer, hstate⟩

theorem setRcvtimeo_separated (h : Separated C s) (slot : Slot)
    (timeout : Int) :
    Separated C (s.configure slot (setRcvtimeo timeout)) := by
  have hnext : (s.configure slot (setRcvtimeo timeout)).zmq.nextSocket =
      s.zmq.nextSocket := by
    unfold State.configure
    split <;> rfl
  have hsent : (s.configure slot (setRcvtimeo timeout)).sent = s.sent := by
    unfold State.configure
    split <;> rfl
  refine separated_of_quiet h ?_ (Nat.le_of_eq hnext.symm) ?_ ?_ ?_ hsent
  · rw [configure_view]
    exact h.wellFormed
  · intro other socket hpointer
    rwa [configure_pointer] at hpointer
  · intro socket _
    exact configure_setRcvtimeo_endpoints s slot timeout socket
  · intro u hu
    rw [configure_uses] at hu
    exact Or.inl hu

theorem destroy_separated (h : Separated C s) (slot : Slot) :
    Separated C (s.destroy slot) := by
  rcases destroy_sockets s slot with ⟨hnext, hsockets⟩
  refine separated_of_quiet h ?_ (Nat.le_of_eq hnext.symm) ?_ ?_ ?_
    (destroy_sent s slot)
  · rw [destroy_view]
    exact Table.close_wellFormed h.wellFormed slot
  · intro other socket hpointer
    rwa [destroy_pointer] at hpointer
  · intro socket _
    rw [hsockets]
  · intro u hu
    rcases mem_destroy_uses hu with hold | ⟨_, hslot, hpointer, hstate⟩
    · exact Or.inl hold
    · rw [← hslot] at hpointer
      exact Or.inr ⟨hpointer, hstate⟩

theorem drop_separated (h : Separated C s) (slot : Slot) :
    Separated C (s.drop slot) := by
  have hdestroyed := destroy_separated h slot
  refine separated_of_quiet hdestroyed ?_ (Nat.le_refl _) ?_ (fun _ _ => rfl)
    (fun _ hu => Or.inl hu) rfl
  · rw [drop_view]
    exact Table.release_wellFormed h.wellFormed slot
  · intro other socket hpointer
    change Function.update s.pointer slot none other = some socket at hpointer
    rw [destroy_pointer]
    by_cases hother : other = slot
    · rw [hother, Function.update_self] at hpointer
      cases hpointer
    · rwa [Function.update_of_ne hother] at hpointer

theorem deed_separated (h : Separated C s) (hdeed : Deed C s t) :
    Separated C t := by
  cases hdeed with
  | interrupt stop =>
      cases stop with
      | true => exact ⟨h.wellFormed, h.designated, h.own, h.sent, h.uses⟩
      | false => exact h
  | generate name socketType outcome hfail =>
      exact generate_separated h name socketType hfail
  | assign slot name socketType => exact assign_separated h slot name socketType
  | use call slot => exact use_separated h call slot
  | attach slot => exact attach_separated h slot
  | setRcvtimeo slot timeout => exact setRcvtimeo_separated h slot timeout
  | transmit slot message hC => exact transmit_separated h hC
  | setActive slot up =>
      exact ⟨h.wellFormed, h.designated, h.own, h.sent, h.uses⟩
  | destroy slot => exact destroy_separated h slot
  | drop slot => exact drop_separated h slot

theorem deeds_separated (h : Separated C s) (hdeeds : Deeds C s t) :
    Separated C t := by
  induction hdeeds with
  | refl => exact h
  | tail _ hdeed ih => exact deed_separated ih hdeed

end Separated

/-!
## What has been sent
-/

section Sent

variable {s t : State}

theorem deeds_sent (hdeeds : Deeds (fun _ _ => False) s t) : t.sent = s.sent := by
  induction hdeeds with
  | refl => rfl
  | tail _ hdeed ih =>
      rw [← ih]
      cases hdeed with
      | interrupt stop => cases stop <;> rfl
      | generate name socketType outcome hfail => rfl
      | assign slot name socketType => rfl
      | use call slot => exact use_sent _ call slot
      | attach slot =>
          unfold State.configure
          split <;> rfl
      | setRcvtimeo slot timeout =>
          unfold State.configure
          split <;> rfl
      | transmit slot message hC => exact absurd hC id
      | setActive slot up => rfl
      | destroy slot => exact destroy_sent _ slot
      | drop slot => exact destroy_sent _ slot

def SendsOne (message : List UInt8) (s t : State) : Prop :=
  t.sent = s.sent ∨ exists socket, t.sent = s.sent ++ [(socket, message)]

theorem transmit_sendsOne (s : State) (slot : Slot) (message : List UInt8) :
    SendsOne message s (s.transmit slot message) := by
  unfold State.transmit
  split
  · exact Or.inl rfl
  · next socket _ => exact Or.inr ⟨socket, rfl⟩

theorem use_transmit_sendsOne (s : State) (slot : Slot)
    (message : List UInt8) :
    SendsOne message s ((s.use .send slot).transmit slot message) := by
  have h := transmit_sendsOne (s.use .send slot) slot message
  rwa [SendsOne, use_sent] at h

theorem updateState_sendsOne {newState : STATE} {calls : Calls}
    {outcome : SendOutcome}
    (h : enter connectClient .stateSender calls s = (true, t)) :
    SendsOne (leBytes 4 newState.toNat) t
      (updateState s newState calls outcome) := by
  have hused : (t.use .send .stateSender).sent = t.sent := use_sent t _ _
  simp only [updateState, h]
  split
  · exact Or.inl hused
  · cases outcome with
    | queued => exact use_transmit_sendsOne t .stateSender _
    | again => exact Or.inl hused
    | error e => exact Or.inl hused

theorem sendStatistics_sendsOne {name values : List UInt8} {calls : Calls}
    {allocation : Option Errno} {outcome : SendOutcome}
    (h : enter connectClient .statisticsSender calls s = (true, t)) :
    SendsOne (name ++ 58 :: values) t
      (sendStatistics s name values calls allocation outcome) := by
  have hused : (t.use .send .statisticsSender).sent = t.sent := use_sent t _ _
  simp only [sendStatistics, h]
  split
  · exact Or.inl rfl
  · cases outcome with
    | queued => exact use_transmit_sendsOne t .statisticsSender _
    | again => exact Or.inl hused
    | error e => exact Or.inl hused

theorem failed_sent (s : State) (slot : Slot) (e : Errno) :
    (s.failed slot e).sent = s.sent := by
  unfold State.failed
  split
  · exact destroy_sent s slot
  · rfl

theorem sendCommand_sendsOne {command : List UInt8} {calls : Calls}
    {connected : Bool} {outcome : SendOutcome}
    (h : enter bindServer .commandSender calls s = (true, t)) :
    SendsOne command t (sendCommand s command calls connected outcome) := by
  have hused : (t.use .send .commandSender).sent = t.sent := use_sent t _ _
  simp only [sendCommand, h]
  split
  · exact Or.inl rfl
  · cases outcome with
    | queued => exact use_transmit_sendsOne t .commandSender _
    | again => exact Or.inl hused
    | error e => exact Or.inl ((failed_sent _ _ _).trans hused)

theorem passed_sendsOne {op : Operation} {g : Guard} {slot : Slot}
    {message : List UInt8} (hg : op.guard = some g)
    (henter : g.enter s = (true, t))
    (hmessage : op.message? = some (slot, message)) :
    SendsOne message t (perform s op) := by
  unfold Operation.message? at hmessage
  cases op with
  | updateState newState calls outcome =>
      cases hg
      cases hmessage
      exact updateState_sendsOne henter
  | sendErrorMessage text calls allocation outcome =>
      cases hg
      dsimp only at hmessage
      split at hmessage
      · cases hmessage
      · cases hmessage
        exact sendStatistics_sendsOne henter
  | sendStatistics name values calls allocation outcome =>
      cases hg
      dsimp only at hmessage
      split at hmessage
      · cases hmessage
      · cases hmessage
        exact sendStatistics_sendsOne henter
  | sendCommand command calls connected outcome =>
      cases hg
      dsimp only at hmessage
      split at hmessage
      · cases hmessage
      · cases hmessage
        exact sendCommand_sendsOne henter
  | _ => cases hmessage

theorem step_sendsOne {op : Operation} {slot : Slot} {message : List UInt8}
    (hmessage : op.message? = some (slot, message)) :
    SendsOne message s (step s op) := by
  apply step_cases (P := SendsOne message s)
  · exact fun _ => Or.inl rfl
  · exact fun _ => Or.inl (deeds_sent (closeAll_deeds shutDownOrder s))
  · intro g hg _
    have hentered : (g.enter s).2.sent = s.sent := deeds_sent (guard_deeds hg s)
    cases henter : g.enter s with
    | mk passed t =>
        rw [henter] at hentered
        cases passed with
        | false =>
            rw [perform_blocked hg henter]
            exact Or.inl hentered
        | true =>
            have hone := passed_sendsOne hg henter hmessage
            rwa [SendsOne, hentered] at hone

theorem step_sent_same {op : Operation} (hmessage : op.message? = none) :
    (step s op).sent = s.sent := by
  refine deeds_sent (step_deeds s op ?_)
  intro slot message h
  rw [hmessage] at h
  cases h

end Sent

end IPCHandler
end Monitoring
end FarmNetworking
