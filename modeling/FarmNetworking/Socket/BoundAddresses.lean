import FarmNetworking.Socket.Inproc

/-!
# The addresses that are bound

`BindInproc` puts an address into `boundAddresses_` and nothing ever takes it out.
`DestroySocket` does not know about addresses, so that an address outlives the last
socket that was bound to it.
-/

namespace FarmNetworking
namespace Socket
namespace Inproc

open Foundation Runs
open ZMQHandler

section System

variable {thread : Type*}

structure AddressesBound (s : State thread) : Prop where
  addresses : forall address, address ∈ s.boundAddresses ->
    LiveBinder s.zmq address
  connects : forall call, call ∈ s.connects -> call.bound = true

def OtherBinder (zmq : ZMQHandler.State) (socket : SocketId)
    (address : String) : Prop :=
  exists other, other ∈ zmq.liveSockets ∧ other ≠ socket ∧
    Endpoint.bound address ∈ (zmq.sockets other).endpoints

/--
No address in the set loses its last socket.  A socket that `BindInproc` has bound
still exists at the insertion of its address, or another one is bound to it.
-/
def KeepsBinders (s : State thread) : Action thread -> Prop
  | .DestroySocket t (some socket) => s.pc t = .idle ->
      forall address, address ∈ s.boundAddresses ->
        OtherBinder s.zmq socket address
  | .proceed t _ => forall socket address, s.pc t = .inserting socket address ->
      socket ∈ s.zmq.liveSockets ∨ OtherBinder s.zmq socket address
  | _ => True

structure BoundTo (zmq : ZMQHandler.State) (socket : SocketId)
    (address : String) : Prop where
  issued : socket < zmq.nextSocket
  endpoint : Endpoint.bound address ∈ (zmq.sockets socket).endpoints

def Pc.Justified (zmq : ZMQHandler.State) (addresses : List String) : Pc -> Prop
  | .binding socket _ => socket < zmq.nextSocket
  | .guarding socket address => BoundTo zmq socket address
  | .inserting socket address => BoundTo zmq socket address
  | .connecting _ address => address ∈ addresses
  | .idle | .unguarding | .locking _ _ | .looking _ _ | .unlocking _ _
  | .sleeping _ _ | .leaving => True

def Justified (s : State thread) : Prop :=
  forall t, (s.pc t).Justified s.zmq s.boundAddresses

structure Sound (s : State thread) : Prop where
  issued : forall socket, socket ∈ s.zmq.liveSockets ->
    socket < s.zmq.nextSocket
  justified : Justified s

theorem initial_sound : Sound (State.initial : State thread) := by
  constructor
  · intro socket hsocket
    cases hsocket
  · intro t
    trivial

theorem initial_addressesBound :
    AddressesBound (State.initial : State thread) := by
  constructor
  · intro address hmem
    cases hmem
  · intro call hcall
    cases hcall

/-!
## Sockets that are kept
-/

structure Extends (z z' : ZMQHandler.State) : Prop where
  grows : Grows z z'
  live : z.liveSockets ⊆ z'.liveSockets
  issued : (forall socket, socket ∈ z.liveSockets -> socket < z.nextSocket) ->
    forall socket, socket ∈ z'.liveSockets -> socket < z'.nextSocket

theorem Extends.refl (z : ZMQHandler.State) : Extends z z :=
  ⟨Grows.refl z, List.Subset.refl _, id⟩

theorem addEndpoint_extends (z : ZMQHandler.State) (socket : SocketId)
    (endpoint : Endpoint) :
    Extends z (configure z socket (addEndpoint endpoint)) :=
  ⟨addEndpoint_grows z socket endpoint, List.Subset.refl _, id⟩

theorem GenerateSocket_extends (z : ZMQHandler.State) (name : String)
    (socketType : SocketType) (highWaterMark : Int)
    (outcome : GenerateOutcome) :
    Extends z (GenerateSocket z name socketType highWaterMark outcome).1 := by
  have hgrows := GenerateSocket_grows z name socketType highWaterMark outcome
  by_cases hok : outcome = .ok
  · subst hok
    rcases GenerateSocket_ok z name socketType highWaterMark with
      ⟨t, ht, hlive, hnext⟩
    rw [ht] at hgrows ⊢
    refine ⟨hgrows, ?_, ?_⟩
    · rw [hlive]
      exact List.subset_append_left _ _
    · intro hissued socket hsocket
      change socket ∈ t.liveSockets at hsocket
      change socket < t.nextSocket
      rw [hnext]
      rw [hlive] at hsocket
      rcases List.mem_append.mp hsocket with hold | hnew
      · exact Nat.lt_succ_of_lt (hissued socket hold)
      · rw [List.mem_singleton.mp hnew]
        exact Nat.lt_succ_self _
  · rcases GenerateSocket_throws z name socketType highWaterMark hok with
      ⟨t, e, ht, hlive, hnext⟩
    rw [ht] at hgrows ⊢
    refine ⟨hgrows, ?_, ?_⟩
    · rw [hlive]
      exact List.Subset.refl _
    · intro hissued socket hsocket
      change socket ∈ t.liveSockets at hsocket
      rw [hlive] at hsocket
      exact Nat.lt_of_lt_of_le (hissued socket hsocket) hnext

theorem liveBinder_extends {z z' : ZMQHandler.State}
    (hissued : forall socket, socket ∈ z.liveSockets -> socket < z.nextSocket)
    (h : Extends z z') {address : String} (hbinder : LiveBinder z address) :
    LiveBinder z' address := by
  rcases hbinder with ⟨socket, hlive, hbound⟩
  exact ⟨socket, h.live hlive, h.grows.endpoints socket (hissued socket hlive) hbound⟩

theorem liveBinder_DestroySocket {z : ZMQHandler.State} {socket : SocketId}
    {address : String} :
    LiveBinder (DestroySocket z (some socket)) address <->
      OtherBinder z socket address := by
  constructor
  · rintro ⟨other, hlive, hbound⟩
    rcases mem_liveSockets_DestroySocket.mp hlive with ⟨hold, hne⟩
    exact ⟨other, hold, fun heq => hne (by rw [heq]), hbound⟩
  · rintro ⟨other, hold, hne, hbound⟩
    refine ⟨other, mem_liveSockets_DestroySocket.mpr ⟨hold, ?_⟩, hbound⟩
    exact fun heq => hne (Option.some.inj heq).symm

theorem liveBinder_iff {z : ZMQHandler.State} {socket : SocketId}
    {address : String} (h : BoundTo z socket address) :
    LiveBinder z address <->
      socket ∈ z.liveSockets ∨ OtherBinder z socket address := by
  constructor
  · rintro ⟨other, hlive, hbound⟩
    by_cases hsame : other = socket
    · rw [hsame] at hlive
      exact Or.inl hlive
    · exact Or.inr ⟨other, hlive, hsame, hbound⟩
  · rintro (hlive | ⟨other, hlive, _, hbound⟩)
    · exact ⟨socket, hlive, h.endpoint⟩
    · exact ⟨other, hlive, hbound⟩

theorem keeps_of_pc {s : State thread} {t : thread} {pc : Pc}
    (hpc : s.pc t = pc) (h : forall socket address, pc ≠ .inserting socket address)
    (error : Option Errno) : KeepsBinders s (.proceed t error) := by
  intro socket address hinserting
  rw [hpc] at hinserting
  exact absurd hinserting (h socket address)

theorem DestroySocket_grows (z : ZMQHandler.State) (pointer : Option SocketId) :
    Grows z (DestroySocket z pointer) := by
  cases pointer with
  | none => exact Grows.refl z
  | some socket => exact Grows.of_sockets rfl rfl

theorem justified_grows {z z' : ZMQHandler.State} {addresses addresses' : List String}
    (hzmq : Grows z z') (haddresses : addresses ⊆ addresses') {pc : Pc}
    (h : pc.Justified z addresses) : pc.Justified z' addresses' := by
  have hbound : forall {socket : SocketId} {address : String},
      BoundTo z socket address -> BoundTo z' socket address :=
    fun h => ⟨Nat.lt_of_lt_of_le h.issued hzmq.next,
      hzmq.endpoints _ h.issued h.endpoint⟩
  cases pc with
  | binding socket address => exact Nat.lt_of_lt_of_le h hzmq.next
  | guarding socket address => exact hbound h
  | inserting socket address => exact hbound h
  | connecting socket address => exact haddresses h
  | _ => trivial

/-!
## What a step does to the threads
-/

variable [DecidableEq thread]

theorem goto_justified {s s' : State thread} (h : Sound s) {t : thread} {pc : Pc}
    (hpc : s'.pc = (s.goto t pc).pc) (hzmq : Grows s.zmq s'.zmq)
    (haddresses : s.boundAddresses ⊆ s'.boundAddresses)
    (hthere : pc.Justified s'.zmq s'.boundAddresses) : Justified s' := by
  intro u
  rw [hpc]
  show (Function.update s.pc t pc u).Justified s'.zmq s'.boundAddresses
  by_cases hut : u = t
  · rw [hut, Function.update_self]
    exact hthere
  · rw [Function.update_of_ne hut]
    exact justified_grows hzmq haddresses (h.justified u)

theorem lock_justified {s : State thread} (h : Sound s) (t : thread) {pc : Pc}
    (hthere : pc.Justified s.zmq s.boundAddresses) : Justified (s.lock t pc) := by
  unfold State.lock
  split
  · exact h.justified
  · exact goto_justified h rfl (Grows.refl s.zmq) (List.Subset.refl _) hthere

theorem stays_justified {s s' : State thread} (h : Sound s) {t : thread} {pc : Pc}
    (hpc : s'.pc = (s.goto t pc).pc) (hzmq : s'.zmq = s.zmq)
    (haddresses : s'.boundAddresses = s.boundAddresses)
    (hthere : pc.Justified s.zmq s.boundAddresses) : Justified s' := by
  refine goto_justified h hpc ?_ ?_ ?_
  · rw [hzmq]
    exact Grows.refl s.zmq
  · rw [haddresses]
    exact List.Subset.refl _
  · rw [hzmq, haddresses]
    exact hthere

theorem bind_justified {s : State thread} (h : Sound s) (t : thread)
    {socket : SocketId} (hsocket : socket < s.zmq.nextSocket) (address : String)
    (error : Option Errno) : Justified (s.bind t socket address error) := by
  cases error with
  | none =>
      refine goto_justified h rfl (addEndpoint_grows s.zmq socket _)
        (List.Subset.refl _) ⟨hsocket, ?_⟩
      show Endpoint.bound address ∈
        (Function.update s.zmq.sockets socket _ socket).endpoints
      rw [Function.update_self]
      exact List.mem_append_right _ (List.mem_singleton_self _)
  | some e => exact stays_justified h rfl rfl rfl trivial

theorem connect_justified {s : State thread} (h : Sound s) (t : thread)
    (socket : SocketId) (address : String) (error : Option Errno) :
    Justified (s.connect t socket address error) := by
  cases error with
  | none =>
      exact goto_justified h rfl (addEndpoint_grows s.zmq socket _)
        (List.Subset.refl _) trivial
  | some e => exact stays_justified h rfl rfl rfl trivial

theorem proceed_justified {s : State thread} (h : Sound s) (t : thread)
    (error : Option Errno) : Justified (proceed s t error) := by
  have hthere := h.justified t
  unfold proceed
  cases hpc : s.pc t with
  | idle => exact h.justified
  | binding socket address =>
      rw [hpc] at hthere
      exact bind_justified h t hthere address error
  | guarding socket address =>
      rw [hpc] at hthere
      exact lock_justified h t hthere
  | inserting socket address =>
      exact goto_justified h rfl (Grows.refl s.zmq)
        (fun _ hmem => List.mem_insert_of_mem hmem) trivial
  | unguarding => exact stays_justified h rfl rfl rfl trivial
  | locking socket address => exact lock_justified h t trivial
  | looking socket address =>
      dsimp only
      split
      · next hmem =>
          exact stays_justified h rfl rfl rfl hmem
      · exact stays_justified h rfl rfl rfl trivial
  | unlocking socket address => exact stays_justified h rfl rfl rfl trivial
  | sleeping socket address => exact stays_justified h rfl rfl rfl trivial
  | connecting socket address => exact connect_justified h t socket address error
  | leaving => exact stays_justified h rfl rfl rfl trivial

/-!
## What a step does to the addresses
-/

inductive Course (s : State thread) (a : Action thread) :
    State thread -> Prop where
  | keeps (s' : State thread) : KeepsBinders s a -> Extends s.zmq s'.zmq ->
      s'.boundAddresses = s.boundAddresses -> s'.connects = s.connects ->
      Course s a s'
  | inserts (t : thread) (socket : SocketId) (address : String) :
      BoundTo s.zmq socket address ->
      (KeepsBinders s a <->
        socket ∈ s.zmq.liveSockets ∨ OtherBinder s.zmq socket address) ->
      Course s a { s.goto t .unguarding with
        boundAddresses := s.boundAddresses.insert address }
  | connects (s' : State thread) (socket : SocketId) (address : String) :
      KeepsBinders s a -> address ∈ s.boundAddresses ->
      Extends s.zmq s'.zmq -> s'.boundAddresses = s.boundAddresses ->
      s'.connects = s.connects ++ [{
        socket := socket
        address := address
        bound := decide (LiveBinder s.zmq address) }] -> Course s a s'
  | destroys (socket : SocketId) :
      (KeepsBinders s a <-> forall address, address ∈ s.boundAddresses ->
        OtherBinder s.zmq socket address) ->
      Course s a { s with zmq := DestroySocket s.zmq (some socket) }

theorem goto_course {s s' : State thread} {a : Action thread}
    (ha : KeepsBinders s a) (hzmq : s'.zmq = s.zmq)
    (haddresses : s'.boundAddresses = s.boundAddresses)
    (hconnects : s'.connects = s.connects) : Course s a s' := by
  refine Course.keeps s' ha ?_ haddresses hconnects
  rw [hzmq]
  exact Extends.refl s.zmq

theorem lock_course {s : State thread} {a : Action thread} (ha : KeepsBinders s a)
    (t : thread) (pc : Pc) : Course s a (s.lock t pc) := by
  unfold State.lock
  split <;> exact goto_course ha rfl rfl rfl

theorem connect_course {s : State thread} {t : thread} {socket : SocketId}
    {address : String} {a : Action thread} (ha : KeepsBinders s a)
    (hmem : address ∈ s.boundAddresses) (error : Option Errno) :
    Course s a (s.connect t socket address error) := by
  cases error with
  | none =>
      exact Course.connects _ socket address ha hmem
        (addEndpoint_extends s.zmq socket _) rfl rfl
  | some e =>
      exact Course.connects _ socket address ha hmem (Extends.refl s.zmq) rfl rfl

theorem proceed_course {s : State thread} (hs : Sound s) (t : thread)
    (error : Option Errno) :
    Course s (.proceed t error) (proceed s t error) := by
  have hthere := hs.justified t
  unfold proceed
  cases hpc : s.pc t with
  | idle => exact goto_course (keeps_of_pc hpc nofun error) rfl rfl rfl
  | binding socket address =>
      have ha := keeps_of_pc hpc nofun error
      cases error with
      | none =>
          exact Course.keeps _ ha (addEndpoint_extends s.zmq socket _) rfl rfl
      | some e => exact goto_course ha rfl rfl rfl
  | guarding socket address => exact lock_course (keeps_of_pc hpc nofun error) t _
  | inserting socket address =>
      rw [hpc] at hthere
      refine Course.inserts t socket address hthere ?_
      constructor
      · exact fun hkeeps => hkeeps socket address hpc
      · intro hbinder other found hother
        rw [hpc] at hother
        cases hother
        exact hbinder
  | unguarding => exact goto_course (keeps_of_pc hpc nofun error) rfl rfl rfl
  | locking socket address => exact lock_course (keeps_of_pc hpc nofun error) t _
  | looking socket address =>
      dsimp only
      split <;> exact goto_course (keeps_of_pc hpc nofun error) rfl rfl rfl
  | unlocking socket address =>
      exact goto_course (keeps_of_pc hpc nofun error) rfl rfl rfl
  | sleeping socket address =>
      exact goto_course (keeps_of_pc hpc nofun error) rfl rfl rfl
  | connecting socket address =>
      rw [hpc] at hthere
      exact connect_course (keeps_of_pc hpc nofun error) hthere error
  | leaving => exact goto_course (keeps_of_pc hpc nofun error) rfl rfl rfl

theorem call_course {s called : State thread} {a : Action thread} {c : Prop}
    [Decidable c] (ha : ¬ c -> KeepsBinders s a) (h : c -> Course s a called) :
    Course s a (if c then called else s) := by
  split
  · next hcalls => exact h hcalls
  · next hbusy => exact goto_course (ha hbusy) rfl rfl rfl

theorem step_course {s : State thread} (hs : Sound s) (a : Action thread) :
    Course s a (step s a) := by
  cases a with
  | proceed t error => exact proceed_course hs t error
  | GenerateSocket t name socketType highWaterMark outcome =>
      have ha : KeepsBinders s
        (.GenerateSocket t name socketType highWaterMark outcome) := trivial
      apply call_course (fun _ => ha)
      intro _
      exact Course.keeps _ ha (GenerateSocket_extends ..) rfl rfl
  | DestroySocket t pointer =>
      cases pointer with
      | none =>
          have ha : KeepsBinders s (.DestroySocket t none) := trivial
          exact call_course (fun _ => ha) (fun _ => goto_course ha rfl rfl rfl)
      | some socket =>
          have ha : s.pc t ≠ .idle ->
              KeepsBinders s (.DestroySocket t (some socket)) :=
            fun hbusy hidle => absurd hidle hbusy
          apply call_course ha
          intro hidle
          apply Course.destroys socket
          exact ⟨fun hkeeps => hkeeps hidle, fun hall _ => hall⟩
  | BindInproc t socket address =>
      have ha : KeepsBinders s (.BindInproc t socket address) := trivial
      exact call_course (fun _ => ha) (fun _ => goto_course ha rfl rfl rfl)
  | ConnectInproc t socket address =>
      have ha : KeepsBinders s (.ConnectInproc t socket address) := trivial
      exact call_course (fun _ => ha) (fun _ => goto_course ha rfl rfl rfl)

/-!
## Runs
-/

theorem step_justified {s : State thread} (h : Sound s) (a : Action thread) :
    Justified (step s a) := by
  cases a with
  | proceed t error => exact proceed_justified h t error
  | GenerateSocket t name socketType highWaterMark outcome =>
      unfold step
      dsimp only
      split
      · exact fun u => justified_grows (GenerateSocket_grows ..)
          (List.Subset.refl _) (h.justified u)
      · exact h.justified
  | DestroySocket t pointer =>
      unfold step
      dsimp only
      split
      · exact fun u => justified_grows (DestroySocket_grows s.zmq pointer)
          (List.Subset.refl _) (h.justified u)
      · exact h.justified
  | BindInproc t socket address =>
      unfold step
      dsimp only
      split
      · next hcalls =>
          have hthere : (Pc.binding socket address).Justified s.zmq
            s.boundAddresses := hcalls.right
          exact stays_justified h rfl rfl rfl hthere
      · exact h.justified
  | ConnectInproc t socket address =>
      unfold step
      dsimp only
      split
      · exact stays_justified h rfl rfl rfl trivial
      · exact h.justified

theorem step_sound (s : State thread) (a : Action thread) (h : Sound s) :
    Sound (step s a) := by
  refine ⟨?_, step_justified h a⟩
  have hcourse := step_course h a
  generalize step s a = s' at hcourse ⊢
  cases hcourse with
  | keeps _ _ hzmq _ _ => exact hzmq.issued h.issued
  | inserts t socket address _ _ => exact h.issued
  | connects _ _ _ _ _ hzmq _ _ => exact hzmq.issued h.issued
  | destroys socket _ =>
      intro other hother
      exact h.issued other (mem_liveSockets_DestroySocket.mp hother).left

theorem step_addressesBound (s : State thread) (a : Action thread)
    (hs : Sound s) (h : AddressesBound s) :
    AddressesBound (step s a) <-> KeepsBinders s a := by
  have hcourse := step_course hs a
  generalize step s a = s' at hcourse ⊢
  cases hcourse with
  | keeps _ ha hzmq haddresses hconnects =>
      refine iff_of_true ⟨?_, ?_⟩ ha
      · intro address hmem
        rw [haddresses] at hmem
        exact liveBinder_extends hs.issued hzmq (h.addresses address hmem)
      · rw [hconnects]
        exact h.connects
  | inserts t socket address hbound hkeeps =>
      rw [hkeeps, ← liveBinder_iff hbound]
      constructor
      · exact fun hnext => hnext.addresses address List.mem_insert_self
      · intro hbinder
        refine ⟨?_, h.connects⟩
        intro other hother
        rcases List.mem_insert_iff.mp hother with heq | hold
        · rw [heq]
          exact hbinder
        · exact h.addresses other hold
  | connects _ socket address ha hmem hzmq haddresses hconnects =>
      refine iff_of_true ⟨?_, ?_⟩ ha
      · intro other hother
        rw [haddresses] at hother
        exact liveBinder_extends hs.issued hzmq (h.addresses other hother)
      · intro call hcall
        rw [hconnects] at hcall
        rcases List.mem_append.mp hcall with hold | hnew
        · exact h.connects call hold
        · rw [List.mem_singleton.mp hnew]
          exact decide_eq_true (h.addresses address hmem)
  | destroys socket hkeeps =>
      rw [hkeeps]
      constructor
      · intro hnext address hmem
        exact liveBinder_DestroySocket.mp (hnext.addresses address hmem)
      · intro hall
        refine ⟨?_, h.connects⟩
        intro address hmem
        exact liveBinder_DestroySocket.mpr (hall address hmem)

theorem addresses_bound_iff (actions : List (Action thread)) :
    Along AddressesBound step State.initial actions <->
      StepsMeet KeepsBinders step State.initial actions :=
  along_iff_stepsMeet step_sound step_addressesBound initial_sound
    initial_addressesBound actions

end System

/-- A socket is bound and destroyed, and then another thread connects to it. -/
def boundAndDestroyed : List (Action Nat) :=
  [.GenerateSocket 0 "L0" .pull 100 .ok, .GenerateSocket 1 "L1" .push 100 .ok,
    .BindInproc 0 0 "inproc://EB/0/L0", .proceed 0 none, .proceed 0 none,
    .proceed 0 none, .proceed 0 none, .DestroySocket 0 (some 0),
    .ConnectInproc 1 1 "inproc://EB/0/L0", .proceed 1 none, .proceed 1 none,
    .proceed 1 none]

theorem boundAndDestroyed_connects :
    ¬ Along AddressesBound step State.initial boundAndDestroyed := by
  intro halong
  have hcall : { socket := 1, address := "inproc://EB/0/L0", bound := false } ∈
      (run step State.initial boundAndDestroyed).connects := by
    decide
  have hbound := (along_run halong).connects _ hcall
  cases hbound

end Inproc
end Socket
end FarmNetworking
