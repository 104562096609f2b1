import FarmNetworking.Foundation.Pipes
import FarmNetworking.Monitoring.Channels
import FarmNetworking.Monitoring.StateMessages

/-!
# Processes that talk to each other

Any number of processes on one host use the IPC handler, each with its own six
pointers.  Every socket that sends is the source of a pipe.  A receiver may be
given the first message of any pipe whose socket is connected to a port that the
receiver is bound to.  Messages may get lost in every pipe at any time, as happens
behind a full queue or a closed socket.

A call runs to its end before the next one begins.  The processes are otherwise
free, and so is the library: which calls fail, and what a receiver is offered, is
part of the label.
-/

namespace FarmNetworking
namespace Monitoring
namespace Processes

open Foundation Runs ByteString
open Socket ZMQHandler IPCHandler

/-- The process and the socket that a message comes from. -/
abbrev Source (process : Type*) := process × SocketId

/--
A message that a receiving operation has got through one of its pointers, and what
the operation has returned.
-/
structure Delivery (process : Type*) where
  source : Source process
  receiver : process
  slot : Slot
  message : List UInt8
  returned : Option Returned

/--
The last three fields are history.  `unserved` holds what receiving operations have
returned that were given no message.
-/
structure State (process : Type*) where
  ipc : process -> IPCHandler.State
  pipes : Source process -> Pipe (List UInt8)
  called : List (process × Operation)
  deliveries : List (Delivery process)
  unserved : List (process × Returned)

def State.initial {process : Type*} : State process where
  ipc := fun _ => IPCHandler.State.initial
  pipes := fun _ => Pipe.empty
  called := []
  deliveries := []
  unserved := []

def delivers? : Operation -> Option (List UInt8)
  | .getNextCommand _ (.message data _) => some data
  | .tryToReceiveStatistics _ (.message data _) => some data
  | .tryToReceiveState _ (.message data _) => some data
  | _ => none

structure Arrival where
  slot : Slot
  socket : SocketState
  message : List UInt8

/-- The `recv` of an operation that gets past its tests and is given a message. -/
def arrival? (s : IPCHandler.State) (op : Operation) : Option Arrival :=
  match delivers? op, op.guard with
  | some message, some g =>
      if s.crashed then none
      else
        match g.enter s with
        | (false, _) => none
        | (true, t) =>
            (t.pointer g.slot).map fun socket => {
              slot := g.slot
              socket := t.zmq.sockets socket
              message := message }
  | _, _ => none

def sentThrough (socket : SocketId) (sent : List (SocketId × List UInt8)) :
    List (List UInt8) :=
  (sent.filter (fun entry => entry.1 = socket)).map Prod.snd

section System

variable {process : Type*} [DecidableEq process]

/-- What a process has sent goes into the pipes of its sockets. -/
def post (pipes : Source process -> Pipe (List UInt8)) (p : process)
    (sent : List (SocketId × List UInt8)) :
    Source process -> Pipe (List UInt8) :=
  fun source =>
    if source.1 = p then (pipes source).writeAll (sentThrough source.2 sent)
    else pipes source

/-- The sending socket is connected to a port that the receiving one is bound to. -/
def Reaches (s : State process) (source : Source process) (port : String)
    (receiver : SocketState) : Prop :=
  .connected ("tcp://127.0.0.1:" ++ port) ∈
      ((s.ipc source.1).zmq.sockets source.2).endpoints ∧
    .bound ("tcp://*:" ++ port) ∈ receiver.endpoints

instance Reaches.decidable (s : State process) (source : Source process)
    (port : String) (receiver : SocketState) :
    Decidable (Reaches s source port receiver) := by
  unfold Reaches
  infer_instance

inductive Action (process : Type*) where
  /-- A receiving operation is offered the first message of this pipe. -/
  | call (p : process) (op : Operation) (source : Source process) (port : String)
  | lose (source : Source process) (i : Nat)

def perform (s : State process) (p : process) (op : Operation) :
    State process :=
  let after := IPCHandler.step (s.ipc p) op
  { s with
    ipc := Function.update s.ipc p after
    pipes := post s.pipes p (after.sent.drop (s.ipc p).sent.length)
    called := s.called ++ [(p, op)] }

def deliver (s : State process) (p : process) (source : Source process)
    (a : Arrival) (returned : Option Returned) : State process :=
  { s with
    pipes := Function.update s.pipes source (s.pipes source).deliver
    deliveries := s.deliveries ++ [{
      source := source
      receiver := p
      slot := a.slot
      message := a.message
      returned := returned }] }

def conclude (s : State process) (p : process) (returned : Option Returned) :
    State process :=
  { s with
    unserved := s.unserved ++ (returned.map fun value => (p, value)).toList }

def lose (s : State process) (source : Source process) (i : Nat) :
    State process :=
  { s with pipes := Function.update s.pipes source ((s.pipes source).lose i) }

/-- A call that is given a message which is not there does not happen. -/
def step (s : State process) : Action process -> State process
  | .call p op source port =>
      let returned := returned? (s.ipc p) op
      match arrival? (s.ipc p) op with
      | none => conclude (perform s p op) p returned
      | some a =>
          if (s.pipes source).inFlight.head? = some a.message ∧
              Reaches s source port a.socket then
            deliver (perform s p op) p source a returned
          else s
  | .lose source i => lose s source i

/-!
## What the receivers get
-/

def messagesOf (p : process) (called : List (process × Operation)) :
    List (List UInt8) :=
  (called.filter (fun entry => entry.1 = p)).filterMap
    (fun entry => entry.2.message?.map Prod.snd)

def Called (called : List (process × Operation)) (p : process) (slot : Slot)
    (message : List UInt8) : Prop :=
  exists op, (p, op) ∈ called ∧ op.message? = some (slot, message)

def peer : Slot -> Slot
  | .stateSender => .stateReceiver
  | .statisticsSender => .statisticsReceiver
  | .commandSender => .commandReceiver
  | .stateReceiver => .stateSender
  | .statisticsReceiver => .statisticsSender
  | .commandReceiver => .commandSender

inductive Reads (message : List UInt8) : Slot -> Returned -> Prop where
  | state (behind : List UInt8) :
      Reads message .stateReceiver (.state (readState message behind))
  | statistics : Reads message .statisticsReceiver (.text message)
  | command : Reads message .commandReceiver (.text message)

def WithoutMessage (returned : Returned) : Prop :=
  returned = .text [] ∨ returned = .state TIMEOUT

structure Inv (s : State process) : Prop where
  separated : forall p, Separated (Called s.called p) (s.ipc p)
  inCallOrder : forall p,
    ((s.ipc p).sent.map Prod.snd).Sublist (messagesOf p s.called)
  written : forall source,
    (s.pipes source).written = sentThrough source.2 (s.ipc source.1).sent
  ordered : forall source, (s.pipes source).Ordered
  delivered : forall source, (s.pipes source).delivered =
    (s.deliveries.filter (fun d => d.source = source)).map Delivery.message
  channels : forall d, d ∈ s.deliveries ->
    Called s.called d.source.1 (peer d.slot) d.message
  read : forall d, d ∈ s.deliveries ->
    exists returned, d.returned = some returned ∧ Reads d.message d.slot returned
  empty : forall p returned, (p, returned) ∈ s.unserved -> WithoutMessage returned

theorem initial_inv : Inv (State.initial : State process) where
  separated := fun _ => initial_separated _
  inCallOrder := fun _ => List.Sublist.refl []
  written := fun _ => rfl
  ordered := fun _ => Pipe.empty_ordered
  delivered := fun _ => rfl
  channels := nofun
  read := nofun
  empty := nofun

/-!
## Ports
-/

theorem port_of_connected {slot : Slot} {port : String}
    (h : Endpoint.connected ("tcp://127.0.0.1:" ++ port) = slot.endpoint) :
    (slot = .stateSender ∧ port = "4500") ∨
      (slot = .statisticsSender ∧ port = "4501") ∨
      (slot = .commandSender ∧ port = "4502") := by
  have hport : forall number : String,
      "tcp://127.0.0.1:" ++ port = "tcp://127.0.0.1:" ++ number ->
      port = number := fun _ => (String.append_right_inj _).mp
  cases slot with
  | stateSender => exact Or.inl ⟨rfl, hport "4500" (Endpoint.connected.inj h)⟩
  | statisticsSender =>
      exact Or.inr (Or.inl ⟨rfl, hport "4501" (Endpoint.connected.inj h)⟩)
  | commandSender =>
      exact Or.inr (Or.inr ⟨rfl, hport "4502" (Endpoint.connected.inj h)⟩)
  | _ => cases h

theorem port_of_bound {slot : Slot} {port : String}
    (h : Endpoint.bound ("tcp://*:" ++ port) = slot.endpoint) :
    (slot = .stateReceiver ∧ port = "4500") ∨
      (slot = .statisticsReceiver ∧ port = "4501") ∨
      (slot = .commandReceiver ∧ port = "4502") := by
  have hport : forall number : String,
      "tcp://*:" ++ port = "tcp://*:" ++ number -> port = number :=
    fun _ => (String.append_right_inj _).mp
  cases slot with
  | stateReceiver => exact Or.inl ⟨rfl, hport "4500" (Endpoint.bound.inj h)⟩
  | statisticsReceiver =>
      exact Or.inr (Or.inl ⟨rfl, hport "4501" (Endpoint.bound.inj h)⟩)
  | commandReceiver =>
      exact Or.inr (Or.inr ⟨rfl, hport "4502" (Endpoint.bound.inj h)⟩)
  | _ => cases h

@[simp] theorem peer_peer (slot : Slot) : peer (peer slot) = slot := by
  cases slot <;> rfl

theorem eq_peer_of_port {slot other : Slot} {port : String}
    (hconnected : Endpoint.connected ("tcp://127.0.0.1:" ++ port) =
      slot.endpoint)
    (hbound : Endpoint.bound ("tcp://*:" ++ port) = other.endpoint) :
    slot = peer other := by
  rcases port_of_connected hconnected with ⟨rfl, rfl⟩ | ⟨rfl, rfl⟩ | ⟨rfl, rfl⟩ <;>
    rcases port_of_bound hbound with ⟨rfl, h⟩ | ⟨rfl, h⟩ | ⟨rfl, h⟩
  all_goals first | rfl | exact absurd h (by decide)

/-!
## Sending
-/

theorem sentThrough_append (socket : SocketId)
    (sent new : List (SocketId × List UInt8)) :
    sentThrough socket (sent ++ new) =
      sentThrough socket sent ++ sentThrough socket new := by
  simp [sentThrough]

theorem step_sent_drop (s : IPCHandler.State) (op : Operation) :
    s.sent ++ (IPCHandler.step s op).sent.drop s.sent.length =
      (IPCHandler.step s op).sent := by
  cases hmessage : op.message? with
  | none =>
      rw [step_sent_same hmessage, List.drop_length, List.append_nil]
  | some entry =>
      rcases step_sendsOne (s := s) hmessage with hsame | ⟨socket, hsent⟩
      · rw [hsame, List.drop_length, List.append_nil]
      · rw [hsent, List.drop_left]

theorem messagesOf_append (p : process) (called : List (process × Operation))
    (q : process) (op : Operation) :
    messagesOf p (called ++ [(q, op)]) = messagesOf p called ++
      if q = p then (op.message?.map Prod.snd).toList else [] := by
  by_cases hq : q = p
  · cases hmessage : op.message? <;> simp [messagesOf, hq, hmessage]
  · simp [messagesOf, hq]

theorem step_inCallOrder (s : IPCHandler.State) (op : Operation) :
    ((IPCHandler.step s op).sent.map Prod.snd).Sublist
      (s.sent.map Prod.snd ++ (op.message?.map Prod.snd).toList) := by
  cases hmessage : op.message? with
  | none =>
      rw [step_sent_same hmessage]
      exact List.sublist_append_left _ _
  | some entry =>
      rcases step_sendsOne (s := s) hmessage with hsame | ⟨socket, hsent⟩
      · rw [hsame]
        exact List.sublist_append_left _ _
      · rw [hsent, List.map_append]
        exact List.Sublist.refl _

theorem post_written (pipes : Source process -> Pipe (List UInt8))
    (p : process) (sent : List (SocketId × List UInt8))
    (source : Source process) :
    (post pipes p sent source).written = (pipes source).written ++
      if source.1 = p then sentThrough source.2 sent else [] := by
  unfold post
  split
  · exact Pipe.writeAll_written _ _
  · exact (List.append_nil _).symm

theorem post_nil (pipes : Source process -> Pipe (List UInt8))
    (p : process) : post pipes p [] = pipes := by
  funext source
  unfold post
  split <;> rfl

omit [DecidableEq process] in
theorem Called.mono {called : List (process × Operation)} {p : process}
    {slot : Slot} {message : List UInt8} (h : Called called p slot message)
    (more : List (process × Operation)) :
    Called (called ++ more) p slot message := by
  rcases h with ⟨op, hop, hmessage⟩
  exact ⟨op, List.mem_append_left more hop, hmessage⟩

theorem perform_inv {s : State process} (h : Inv s) (p : process)
    (op : Operation) : Inv (perform s p op) := by
  have hsame : forall q, q ≠ p -> (perform s p op).ipc q = s.ipc q :=
    fun q hq => Function.update_of_ne hq ..
  have hself : (perform s p op).ipc p = IPCHandler.step (s.ipc p) op :=
    Function.update_self ..
  have hmore : forall q slot message, Called s.called q slot message ->
      Called (s.called ++ [(p, op)]) q slot message :=
    fun _ _ _ hcalled => hcalled.mono _
  refine ⟨?_, ?_, ?_, ?_, ?_, ?_, h.read, h.empty⟩
  · intro q
    have hold := (h.separated q).mono (hmore q)
    by_cases hq : q = p
    · rw [hq] at hold ⊢
      rw [hself]
      refine deeds_separated hold (step_deeds _ op ?_)
      intro slot message hmessage
      exact ⟨op, List.mem_append_right _ (List.mem_singleton_self _), hmessage⟩
    · rw [hsame q hq]
      exact hold
  · intro q
    have hold := h.inCallOrder q
    change List.Sublist _ (messagesOf q (s.called ++ [(p, op)]))
    rw [messagesOf_append]
    by_cases hq : q = p
    · rw [hq] at hold ⊢
      rw [hself, if_pos rfl]
      exact (step_inCallOrder (s.ipc p) op).trans
        (hold.append (List.Sublist.refl _))
    · rw [hsame q hq, if_neg (Ne.symm hq), List.append_nil]
      exact hold
  · intro source
    change (post s.pipes p _ source).written = _
    rw [post_written, h.written source]
    by_cases hsource : source.1 = p
    · rw [if_pos hsource, hsource, hself, ← sentThrough_append, step_sent_drop]
    · rw [if_neg hsource, hsame _ hsource, List.append_nil]
  · intro source
    change (post s.pipes p _ source).Ordered
    unfold post
    split
    · exact Pipe.writeAll_ordered (h.ordered source) _
    · exact h.ordered source
  · intro source
    have hsent : (post s.pipes p ((IPCHandler.step (s.ipc p) op).sent.drop
        (s.ipc p).sent.length) source).delivered = (s.pipes source).delivered := by
      unfold post
      split
      · exact Pipe.writeAll_delivered _ _
      · rfl
    exact hsent.trans (h.delivered source)
  · intro d hd
    exact (h.channels d hd).mono _

/-!
## Receiving
-/

theorem message?_of_delivers {op : Operation} {message : List UInt8}
    (h : delivers? op = some message) : op.message? = none := by
  cases op <;> first | rfl | cases h

theorem arrival_cases {s : IPCHandler.State} {op : Operation} {a : Arrival}
    (h : arrival? s op = some a) :
    delivers? op = some a.message ∧ s.crashed = false ∧
      exists g t socket, op.guard = some g ∧
      g.enter s = (true, t) ∧ t.pointer g.slot = some socket ∧
        a.slot = g.slot ∧ a.socket = t.zmq.sockets socket := by
  unfold arrival? at h
  split at h
  · next message g hmessage hg =>
      split at h
      · cases h
      · next halive =>
          split at h
          · cases h
          · next t henter =>
              rcases Option.map_eq_some_iff.mp h with ⟨socket, hsocket, rfl⟩
              exact ⟨hmessage, Bool.eq_false_iff.mpr halive, g, t, socket, hg,
                henter, hsocket, rfl, rfl⟩
  · cases h

theorem arrival_onlyAt {C : Slot -> List UInt8 -> Prop} {s : IPCHandler.State}
    (hs : Separated C s) {op : Operation} {a : Arrival}
    (h : arrival? s op = some a) : OnlyAt a.socket a.slot := by
  rcases arrival_cases h with
    ⟨_, _, g, t, socket, hg, henter, hpointer, hslot, hsocket⟩
  have ht := deeds_separated hs (guard_deeds hg s)
  rw [henter] at ht
  rw [hslot, hsocket]
  exact ht.designated g.slot socket hpointer

theorem returned?_of_arrival {s : IPCHandler.State} {op : Operation} {a : Arrival}
    (h : arrival? s op = some a) : exists returned,
      returned? s op = some returned ∧ Reads a.message a.slot returned := by
  rcases arrival_cases h with
    ⟨hmessage, halive, g, t, socket, hg, henter, hpointer, hslot, _⟩
  have ht := (enter_passed hg halive henter).left
  rw [hslot]
  cases op with
  | getNextCommand calls outcome =>
      cases hg
      change enter connectClient .commandReceiver calls s = _ at henter
      cases outcome with
      | message data behind =>
          cases hmessage
          refine ⟨.text a.message, ?_, Reads.command⟩
          simp [returned?, IPCHandler.step, IPCHandler.perform, getNextCommand,
            henter, halive, ht, hpointer, State.use, State.setActive, State.log]
      | again => cases hmessage
      | error e => cases hmessage
  | tryToReceiveStatistics calls outcome =>
      cases hg
      change enter bindServer .statisticsReceiver calls s = _ at henter
      cases outcome with
      | message data behind =>
          cases hmessage
          refine ⟨.text a.message, ?_, Reads.statistics⟩
          simp [returned?, IPCHandler.step, IPCHandler.perform,
            tryToReceiveStatistics, henter, halive, ht, hpointer, State.use,
            State.setActive, State.log]
      | again => cases hmessage
      | error e => cases hmessage
  | tryToReceiveState calls outcome =>
      cases hg
      change enter bindServer .stateReceiver calls s = _ at henter
      cases outcome with
      | message data behind =>
          cases hmessage
          refine ⟨.state (readState a.message behind), ?_, Reads.state behind⟩
          simp [returned?, IPCHandler.step, IPCHandler.perform, tryToReceiveState,
            henter, halive, ht, hpointer, State.use, State.setActive, State.log]
      | again => cases hmessage
      | error e => cases hmessage
  | _ => cases hmessage

theorem alive_of_step {s : IPCHandler.State} {op : Operation}
    (h : (IPCHandler.step s op).crashed = false) : s.crashed = false := by
  cases hcrashed : s.crashed with
  | false => rfl
  | true =>
      rw [IPCHandler.step, if_pos hcrashed, hcrashed] at h
      cases h

theorem returned?_withoutMessage {s : IPCHandler.State} {op : Operation}
    {returned : Returned} (h : arrival? s op = none)
    (hreturned : returned? s op = some returned) : WithoutMessage returned := by
  unfold returned? at hreturned
  split at hreturned
  · cases hreturned
  next hstep =>
  have halive := alive_of_step (Bool.eq_false_iff.mpr hstep)
  -- an operation past its tests has a pointer, so a message would arrive
  have hoffered : forall {g t}, op.guard = some g -> g.enter s = (true, t) ->
      delivers? op = none := by
    intro g t hg henter
    rcases Option.ne_none_iff_exists'.mp (enter_passed hg halive henter).right with
      ⟨socket, hpointer⟩
    cases hmessage : delivers? op with
    | none => rfl
    | some message => simp [arrival?, hmessage, hg, halive, henter, hpointer] at h
  cases op with
  | getNextCommand calls outcome =>
      cases hreturned
      refine Or.inl (congrArg Returned.text ?_)
      unfold getNextCommand
      split
      · rfl
      · next t henter =>
          have hnone := hoffered rfl henter
          cases outcome with
          | message data behind => cases hnone
          | again => dsimp only; split <;> rfl
          | error e => dsimp only; split <;> rfl
  | tryToReceiveStatistics calls outcome =>
      cases hreturned
      refine Or.inl (congrArg Returned.text ?_)
      unfold tryToReceiveStatistics
      split
      · rfl
      · next t henter =>
          have hnone := hoffered rfl henter
          cases outcome with
          | message data behind => cases hnone
          | again => dsimp only; split <;> rfl
          | error e => dsimp only; split <;> rfl
  | tryToReceiveState calls outcome =>
      cases hreturned
      refine Or.inr (congrArg Returned.state ?_)
      unfold tryToReceiveState
      split
      · rfl
      · next t henter =>
          have hnone := hoffered rfl henter
          cases outcome with
          | message data behind => cases hnone
          | again => dsimp only; split <;> rfl
          | error e => dsimp only; split <;> rfl
  | _ => cases hreturned

theorem perform_pipes {s : State process} {p : process} {op : Operation}
    (h : op.message? = none) : (perform s p op).pipes = s.pipes := by
  change post s.pipes p ((IPCHandler.step (s.ipc p) op).sent.drop _) = _
  rw [step_sent_same h, List.drop_length, post_nil]

theorem Inv.sent_of_inFlight {s : State process} (h : Inv s)
    {source : Source process} {message : List UInt8}
    (hmessage : message ∈ (s.pipes source).inFlight) :
    (source.2, message) ∈ (s.ipc source.1).sent := by
  have hwritten : message ∈ (s.pipes source).written :=
    (h.ordered source).subset (List.mem_append_right _ hmessage)
  rw [h.written source] at hwritten
  rcases List.mem_map.mp hwritten with ⟨⟨socket, m⟩, hentry, rfl⟩
  rcases List.mem_filter.mp hentry with ⟨hsent, hsocket⟩
  rw [← of_decide_eq_true hsocket]
  exact hsent

/-- A message that reaches a receiver was sent to the other end of its channel. -/
theorem Inv.called_of_reaches {s : State process} (h : Inv s)
    {source : Source process} {port : String} {a : Arrival}
    (honly : OnlyAt a.socket a.slot) (hreaches : Reaches s source port a.socket)
    (hmessage : a.message ∈ (s.pipes source).inFlight) :
    Called s.called source.1 (peer a.slot) a.message := by
  rcases (h.separated source.1).sent source.2 a.message
    (h.sent_of_inFlight hmessage) with ⟨_, slot, hsender, hcalled⟩
  have hslot : slot = peer a.slot :=
    eq_peer_of_port (hsender _ hreaches.left) (honly _ hreaches.right)
  rw [← hslot]
  exact hcalled

theorem deliver_inv {s : State process} (h : Inv s) (p : process)
    {source : Source process} {a : Arrival} {returned : Returned}
    (hhead : (s.pipes source).inFlight.head? = some a.message)
    (hcalled : Called s.called source.1 (peer a.slot) a.message)
    (hreads : Reads a.message a.slot returned) :
    Inv (deliver s p source a (some returned)) := by
  refine ⟨h.separated, h.inCallOrder, ?_, ?_, ?_, ?_, ?_, h.empty⟩
  · exact (Function.forall_update_iff s.pipes (p := fun other pipe =>
      pipe.written = sentThrough other.2 (s.ipc other.1).sent)).mpr
        ⟨h.written source, fun other _ => h.written other⟩
  · exact (Function.forall_update_iff s.pipes (p := fun _ pipe => pipe.Ordered)).mpr
      ⟨Pipe.deliver_ordered (h.ordered source), fun other _ => h.ordered other⟩
  · intro other
    show (Function.update s.pipes source _ other).delivered =
      ((s.deliveries ++ [_]).filter _).map Delivery.message
    rw [List.filter_append, List.map_append, ← h.delivered other]
    by_cases hsource : other = source
    · rw [hsource, Function.update_self]
      simp [Pipe.deliver, hhead]
    · rw [Function.update_of_ne hsource]
      simp [Ne.symm hsource]
  · intro d hd
    rcases List.mem_append.mp hd with hold | hnew
    · exact h.channels d hold
    · rw [List.mem_singleton.mp hnew]
      exact hcalled
  · intro d hd
    rcases List.mem_append.mp hd with hold | hnew
    · exact h.read d hold
    · rw [List.mem_singleton.mp hnew]
      exact ⟨returned, rfl, hreads⟩

theorem conclude_inv {s : State process} (h : Inv s) (p : process)
    {returned : Option Returned}
    (hreturned : forall value, returned = some value -> WithoutMessage value) :
    Inv (conclude s p returned) := by
  refine ⟨h.separated, h.inCallOrder, h.written, h.ordered, h.delivered, h.channels,
    h.read, ?_⟩
  intro q value hvalue
  rcases List.mem_append.mp hvalue with hold | hnew
  · exact h.empty q value hold
  · cases returned with
    | none => cases hnew
    | some other =>
        cases List.mem_singleton.mp hnew
        exact hreturned value rfl

theorem lose_inv {s : State process} (h : Inv s) (source : Source process)
    (i : Nat) : Inv (lose s source i) := by
  refine ⟨h.separated, h.inCallOrder, ?_, ?_, ?_, h.channels, h.read, h.empty⟩
  · exact (Function.forall_update_iff s.pipes (p := fun other pipe =>
      pipe.written = sentThrough other.2 (s.ipc other.1).sent)).mpr
        ⟨h.written source, fun other _ => h.written other⟩
  · exact (Function.forall_update_iff s.pipes (p := fun _ pipe => pipe.Ordered)).mpr
      ⟨Pipe.lose_ordered (h.ordered source) i, fun other _ => h.ordered other⟩
  · exact (Function.forall_update_iff s.pipes (p := fun other pipe =>
      pipe.delivered = (s.deliveries.filter (fun d => d.source = other)).map
        Delivery.message)).mpr
        ⟨h.delivered source, fun other _ => h.delivered other⟩

/-!
## Runs
-/

theorem step_inv (s : State process) (action : Action process) (h : Inv s) :
    Inv (step s action) := by
  unfold step
  split
  · next p op source port =>
      dsimp only
      split
      · next harrival =>
          exact conclude_inv (perform_inv h p op) p
            fun _ hvalue => returned?_withoutMessage harrival hvalue
      · next a harrival =>
          rcases returned?_of_arrival harrival with ⟨returned, hreturned, hreads⟩
          rw [hreturned]
          split
          · next hreceives =>
              have hmessage : a.message ∈ (s.pipes source).inFlight :=
                List.mem_of_head? hreceives.left
              have hcalled := h.called_of_reaches
                (arrival_onlyAt (h.separated p) harrival) hreceives.right
                hmessage
              refine deliver_inv (perform_inv h p op) p ?_ (hcalled.mono _) hreads
              rw [perform_pipes (message?_of_delivers (arrival_cases harrival).left)]
              exact hreceives.left
          · exact h
  · next source i => exact lose_inv h source i

theorem run_inv (actions : List (Action process)) :
    Inv (run step State.initial actions) :=
  run_invariant step_inv initial_inv actions

def State.received (s : State process) (slot : Slot) :
    List (Delivery process) :=
  s.deliveries.filter (fun d => d.slot = slot)

/--
What the receiving operations return is what was passed to the matching sending
ones, or nothing.  Through one socket of a process the messages arrive at most once
each and in the order of the calls that sent them.
-/
structure Faithful (s : State process) : Prop where
  inOrder : forall p socket,
    ((s.deliveries.filter (fun d => d.source = (p, socket))).map
      Delivery.message).Sublist (sentThrough socket (s.ipc p).sent)
  inCallOrder : forall p,
    ((s.ipc p).sent.map Prod.snd).Sublist (messagesOf p s.called)
  states : forall d, d ∈ s.received .stateReceiver ->
    exists newState calls outcome,
      (d.source.1, .updateState newState calls outcome) ∈ s.called ∧
        d.returned = some (.state newState)
  statistics : forall d, d ∈ s.received .statisticsReceiver ->
    exists name values, name ≠ [] ∧ values ≠ [] ∧
      d.returned = some (.text (name ++ 58 :: values)) ∧
      exists calls allocation outcome,
        (d.source.1, .sendStatistics name values calls allocation outcome) ∈
            s.called ∨
          (name = errorName ∧
            (d.source.1, .sendErrorMessage values calls allocation outcome) ∈
              s.called)
  commands : forall d, d ∈ s.received .commandReceiver ->
    exists command calls connected outcome, command ≠ [] ∧
      d.returned = some (.text command) ∧
      (d.source.1, .sendCommand command calls connected outcome) ∈ s.called
  receivers : forall d, d ∈ s.deliveries -> d.slot = .stateReceiver ∨
    d.slot = .statisticsReceiver ∨ d.slot = .commandReceiver
  others : forall p returned, (p, returned) ∈ s.unserved ->
    returned = .text [] ∨ returned = .state TIMEOUT

theorem message?_cases {op : Operation} {slot : Slot} {message : List UInt8}
    (h : op.message? = some (slot, message)) :
    (slot = .stateSender ∧ exists newState calls outcome,
      op = .updateState newState calls outcome ∧
        message = stateMessage newState) ∨
    (slot = .statisticsSender ∧ exists name values, name ≠ [] ∧ values ≠ [] ∧
      message = name ++ 58 :: values ∧ exists calls allocation outcome,
        op = .sendStatistics name values calls allocation outcome ∨
          (name = errorName ∧
            op = .sendErrorMessage values calls allocation outcome)) ∨
    (slot = .commandSender ∧ message ≠ [] ∧ exists calls connected outcome,
      op = .sendCommand message calls connected outcome) := by
  unfold Operation.message? at h
  cases op with
  | updateState newState calls outcome =>
      cases h
      exact Or.inl ⟨rfl, newState, calls, outcome, rfl, rfl⟩
  | sendErrorMessage text calls allocation outcome =>
      dsimp only at h
      split at h
      · cases h
      · next htext =>
          cases h
          exact Or.inr (Or.inl ⟨rfl, _, text, List.cons_ne_nil _ _, htext, rfl,
            calls, allocation, outcome, Or.inr ⟨rfl, rfl⟩⟩)
  | sendStatistics name values calls allocation outcome =>
      dsimp only at h
      split at h
      · cases h
      · next hboth =>
          cases h
          rcases not_or.mp hboth with ⟨hname, hvalues⟩
          exact Or.inr (Or.inl ⟨rfl, name, values, hname, hvalues, rfl, calls,
            allocation, outcome, Or.inl rfl⟩)
  | sendCommand command calls connected outcome =>
      dsimp only at h
      split at h
      · cases h
      · next hcommand =>
          cases h
          exact Or.inr (Or.inr ⟨rfl, hcommand, calls, connected, outcome, rfl⟩)
  | _ => cases h

/-- The channels are faithful in every run, whatever fails and gets lost. -/
theorem channels_faithful (actions : List (Action process)) :
    Faithful (run step (State.initial : State process) actions) := by
  have h := run_inv actions
  generalize run step State.initial actions = s at h
  have hreceived : forall {slot : Slot} {d : Delivery process},
      d ∈ s.received slot -> Called s.called d.source.1 (peer slot) d.message ∧
        exists returned, d.returned = some returned ∧
          Reads d.message slot returned := by
    intro slot d hd
    rcases List.mem_filter.mp hd with ⟨hmem, hslot⟩
    have hcalled := h.channels d hmem
    have hread := h.read d hmem
    rw [of_decide_eq_true hslot] at hcalled hread
    exact ⟨hcalled, hread⟩
  refine ⟨?_, h.inCallOrder, ?_, ?_, ?_, ?_, h.empty⟩
  · intro p socket
    have hsublist := (h.ordered (p, socket)).delivered_sublist
    rwa [h.delivered, h.written] at hsublist
  · intro d hd
    rcases hreceived hd with ⟨⟨op, hop, hmessage⟩, returned, hreturned, hreads⟩
    rcases message?_cases hmessage with
      ⟨_, newState, calls, outcome, rfl, hstate⟩ | ⟨hslot, _⟩ | ⟨hslot, _⟩
    · refine ⟨newState, calls, outcome, hop, ?_⟩
      cases hreads with
      | state behind =>
          have hread := readState_stateMessage newState [] behind
          rw [List.append_nil, ← hstate] at hread
          rw [hreturned, hread]
    · cases hslot
    · cases hslot
  · intro d hd
    rcases hreceived hd with ⟨⟨op, hop, hmessage⟩, returned, hreturned, hreads⟩
    rcases message?_cases hmessage with
      ⟨hslot, _⟩ | ⟨_, name, values, hname, hvalues, heq, calls, allocation,
        outcome, hwho⟩ | ⟨hslot, _⟩
    · cases hslot
    · cases hreads
      refine ⟨name, values, hname, hvalues, ?_, calls, allocation, outcome, ?_⟩
      · rw [hreturned, heq]
      · rcases hwho with rfl | ⟨herror, rfl⟩
        · exact Or.inl hop
        · exact Or.inr ⟨herror, hop⟩
    · cases hslot
  · intro d hd
    rcases hreceived hd with ⟨⟨op, hop, hmessage⟩, returned, hreturned, hreads⟩
    rcases message?_cases hmessage with
      ⟨hslot, _⟩ | ⟨hslot, _⟩ | ⟨_, hne, calls, connected, outcome, rfl⟩
    · cases hslot
    · cases hslot
    · cases hreads
      exact ⟨d.message, calls, connected, outcome, hne, hreturned, hop⟩
  · intro d hd
    rcases h.channels d hd with ⟨op, _, hmessage⟩
    rcases message?_cases hmessage with ⟨hslot, _⟩ | ⟨hslot, _⟩ | ⟨hslot, _⟩
    · exact Or.inl (by rw [← peer_peer d.slot, hslot]; rfl)
    · exact Or.inr (Or.inl (by rw [← peer_peer d.slot, hslot]; rfl))
    · exact Or.inr (Or.inr (by rw [← peer_peer d.slot, hslot]; rfl))

end System

/-- A state that is sent before anybody listens arrives all the same. -/
example : (run step (State.initial : State Bool) [
      .call false (.updateState RUNNING Calls.succeed .queued) (false, 0) "",
      .call true (.tryToReceiveState Calls.succeed
        (.message (stateMessage RUNNING) [])) (false, 0) "4500"]).deliveries.map
      (fun d => (d.receiver, d.slot, d.returned)) =
    [(true, .stateReceiver, some (.state RUNNING))] := by
  decide

end Processes
end Monitoring
end FarmNetworking
