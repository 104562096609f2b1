import Mathlib.Data.List.Nodup
import FarmNetworking.Foundation.Runs
import FarmNetworking.Socket.SendMessage

/-!
# The books of the registry

A counter, a map and the context itself know how many sockets there are.  They
drift apart where `GenerateSocket` throws behind its constructor, and where a
socket is destroyed that `sendMessage` has destroyed already.
-/

namespace FarmNetworking
namespace Socket
namespace ZMQHandler

open Foundation Runs

/--
The registry with the sockets that callers have got and not destroyed themselves,
and with all sockets that have been closed, in order.
-/
structure Books where
  zmq : State
  owned : List SocketId
  closed : List SocketId

def Books.initial : Books where
  zmq := State.initial
  owned := []
  closed := []

inductive Entry where
  | generate (name : String) (socketType : SocketType) (highWaterMark : Int)
      (outcome : GenerateOutcome)
  | destroy (pointer : Option SocketId)
  | sendMessage (socket : SocketId) (message : List UInt8) (flags : Int)
      (attempts : List Attempt)

/-- Callers pass null or a socket that they have not destroyed themselves. -/
def Books.enter (s : Books) : Entry -> Books
  | .generate name socketType highWaterMark outcome =>
      match GenerateSocket s.zmq name socketType highWaterMark outcome with
      | (zmq, .ok socket) => { s with zmq := zmq, owned := s.owned ++ [socket] }
      | (zmq, .error _) => { s with zmq := zmq }
  | .destroy none => { s with zmq := DestroySocket s.zmq none }
  | .destroy (some socket) =>
      if socket ∈ s.owned then
        { zmq := DestroySocket s.zmq (some socket)
          owned := s.owned.filter (fun other => other ≠ socket)
          closed := s.closed ++ [socket] }
      else s
  | .sendMessage socket message flags attempts =>
      if socket ∈ s.owned then
        match sendMessage socket message flags s.zmq attempts with
        | none => s
        | some r => { s with zmq := r.zmq, closed := s.closed ++ r.closed }
      else s

structure Balanced (s : Books) : Prop where
  counted : s.zmq.numberOfActiveSockets = s.zmq.allSockets.length
  opened : s.zmq.allSockets.length = s.zmq.openSockets.length
  closedOnce : s.closed.Nodup

/--
A socket whose constructor has run gets its options, and what is destroyed is still
in the map.
-/
def KeepsBalance (s : Books) : Entry -> Prop
  | .generate _ _ _ outcome =>
      match outcome with
      | .ok => True
      | .constructorThrows _ => True
      | .lingerThrows _ => False
      | .sndhwmThrows _ => False
  | .destroy none => True
  | .destroy (some socket) => socket ∈ s.owned -> socket ∈ s.zmq.liveSockets
  | .sendMessage socket _ _ attempts => socket ∈ s.owned ->
      Fails s.zmq attempts -> socket ∈ s.zmq.liveSockets

/-!
## The sets behind the counts
-/

structure Recorded (s : Books) : Prop where
  live_nodup : s.zmq.liveSockets.Nodup
  open_nodup : s.zmq.openSockets.Nodup
  live_open : forall socket, socket ∈ s.zmq.liveSockets ->
    socket ∈ s.zmq.openSockets
  open_issued : forall socket, socket ∈ s.zmq.openSockets ->
    socket < s.zmq.nextSocket
  owned_issued : forall socket, socket ∈ s.owned -> socket < s.zmq.nextSocket
  closed_issued : forall socket, socket ∈ s.closed ->
    socket < s.zmq.nextSocket
  closed_dead : forall socket, socket ∈ s.closed ->
    socket ∉ s.zmq.liveSockets

theorem liveSockets_DestroySocket (s : State) (socket : SocketId) :
    (DestroySocket s (some socket)).liveSockets =
      s.liveSockets.filter (fun other => other ≠ socket) := by
  unfold DestroySocket State.liveSockets
  rw [List.filter_map]
  rfl

theorem length_liveSockets (s : State) :
    s.liveSockets.length = s.allSockets.length :=
  List.length_map ..

theorem length_filter_ne {l : List SocketId} (hnodup : l.Nodup)
    {socket : SocketId} (h : socket ∈ l) :
    (l.filter (fun other => other ≠ socket)).length + 1 = l.length := by
  have herase : l.filter (fun other => other ≠ socket) = l.erase socket := by
    rw [hnodup.erase_eq_filter]
    apply List.filter_congr
    intro other _
    by_cases heq : other = socket <;> simp [heq]
  rw [herase]
  exact List.length_erase_add_one h

theorem nodup_append_single {l : List SocketId} (hnodup : l.Nodup)
    {socket : SocketId} (h : socket ∉ l) : (l ++ [socket]).Nodup := by
  rw [← List.concat_eq_append]
  exact List.Nodup.concat h hnodup

theorem filter_ne_of_notMem {l : List SocketId} {socket : SocketId}
    (h : socket ∉ l) : l.filter (fun other => other ≠ socket) = l := by
  apply List.filter_eq_self.mpr
  intro other hother
  apply decide_eq_true
  intro heq
  rw [heq] at hother
  exact h hother

/-!
## Destroying a socket
-/

theorem destroyed_recorded {s : Books} (h : Recorded s) {socket : SocketId}
    (howned : socket ∈ s.owned) (owned : List SocketId)
    (hsubset : owned ⊆ s.owned) :
    Recorded {
      zmq := DestroySocket s.zmq (some socket)
      owned := owned
      closed := s.closed ++ [socket] } := by
  have hlive := liveSockets_DestroySocket s.zmq socket
  constructor
  · rw [hlive]
    exact h.live_nodup.filter _
  · exact h.open_nodup.filter _
  · intro other hother
    rw [hlive] at hother
    rcases List.mem_filter.mp hother with ⟨hmem, hne⟩
    exact List.mem_filter.mpr ⟨h.live_open other hmem, hne⟩
  · intro other hother
    exact h.open_issued other (List.mem_filter.mp hother).left
  · intro other hother
    exact h.owned_issued other (hsubset hother)
  · intro other hother
    rcases List.mem_append.mp hother with hold | hnew
    · exact h.closed_issued other hold
    · rw [List.mem_singleton.mp hnew]
      exact h.owned_issued socket howned
  · intro other hother hmem
    rw [hlive] at hmem
    rcases List.mem_filter.mp hmem with ⟨hlive, hne⟩
    rcases List.mem_append.mp hother with hold | hnew
    · exact h.closed_dead other hold hlive
    · exact of_decide_eq_true hne (List.mem_singleton.mp hnew)

theorem destroyed_balanced {s : Books} (h : Recorded s) (hs : Balanced s)
    (socket : SocketId) (owned : List SocketId) :
    Balanced {
      zmq := DestroySocket s.zmq (some socket)
      owned := owned
      closed := s.closed ++ [socket] } <->
      socket ∈ s.zmq.liveSockets := by
  have hlive := liveSockets_DestroySocket s.zmq socket
  have hlength := length_liveSockets (DestroySocket s.zmq (some socket))
  have hbefore := length_liveSockets s.zmq
  have hcounted := hs.counted
  have hopened := hs.opened
  constructor
  · intro hnext
    by_contra hdead
    rw [hlive, filter_ne_of_notMem hdead] at hlength
    have hcount : s.zmq.numberOfActiveSockets - 1 =
        (DestroySocket s.zmq (some socket)).allSockets.length := hnext.counted
    lia
  · intro hmem
    have hone := length_filter_ne h.live_nodup hmem
    have htwo := length_filter_ne h.open_nodup (h.live_open socket hmem)
    rw [hlive] at hlength
    constructor
    · change s.zmq.numberOfActiveSockets - 1 =
        (DestroySocket s.zmq (some socket)).allSockets.length
      lia
    · change (DestroySocket s.zmq (some socket)).allSockets.length =
        (s.zmq.openSockets.filter (fun other => other ≠ socket)).length
      lia
    · apply nodup_append_single hs.closedOnce
      exact fun hclosed => h.closed_dead socket hclosed hmem

/-!
## Creating a socket
-/

theorem construct_recorded {s : Books} (h : Recorded s)
    (socketType : SocketType) :
    Recorded { s with zmq := construct s.zmq socketType } := by
  have hfresh : s.zmq.nextSocket ∉ s.zmq.openSockets := by
    intro hmem
    exact Nat.lt_irrefl _ (h.open_issued _ hmem)
  constructor
  · exact h.live_nodup
  · exact nodup_append_single h.open_nodup hfresh
  · intro socket hsocket
    exact List.mem_append_left _ (h.live_open socket hsocket)
  · intro socket hsocket
    rcases List.mem_append.mp hsocket with hold | hnew
    · exact Nat.lt_succ_of_lt (h.open_issued socket hold)
    · rw [List.mem_singleton.mp hnew]
      exact Nat.lt_succ_self _
  · intro socket hsocket
    exact Nat.lt_succ_of_lt (h.owned_issued socket hsocket)
  · intro socket hsocket
    exact Nat.lt_succ_of_lt (h.closed_issued socket hsocket)
  · exact h.closed_dead

theorem register_recorded {s : Books} (h : Recorded s) {zmq : State}
    (socket : SocketId) (hlive : zmq.liveSockets = s.zmq.liveSockets ++ [socket])
    (hopen : zmq.openSockets = s.zmq.openSockets)
    (hnext : zmq.nextSocket = s.zmq.nextSocket)
    (hmem : socket ∈ s.zmq.openSockets) (hnew : socket ∉ s.zmq.liveSockets)
    (hclosed : socket ∉ s.closed) :
    Recorded { s with zmq := zmq, owned := s.owned ++ [socket] } := by
  constructor
  · change zmq.liveSockets.Nodup
    rw [hlive]
    exact nodup_append_single h.live_nodup hnew
  · change zmq.openSockets.Nodup
    rw [hopen]
    exact h.open_nodup
  · intro other hother
    change other ∈ zmq.liveSockets at hother
    change other ∈ zmq.openSockets
    rw [hopen]
    rw [hlive] at hother
    rcases List.mem_append.mp hother with hold | hlast
    · exact h.live_open other hold
    · rw [List.mem_singleton.mp hlast]
      exact hmem
  · intro other hother
    change other ∈ zmq.openSockets at hother
    change other < zmq.nextSocket
    rw [hnext]
    rw [hopen] at hother
    exact h.open_issued other hother
  · intro other hother
    change other < zmq.nextSocket
    rw [hnext]
    rcases List.mem_append.mp hother with hold | hlast
    · exact h.owned_issued other hold
    · rw [List.mem_singleton.mp hlast]
      exact h.open_issued socket hmem
  · intro other hother
    change other < zmq.nextSocket
    rw [hnext]
    exact h.closed_issued other hother
  · intro other hother
    change other ∉ zmq.liveSockets
    rw [hlive]
    intro hlast
    rcases List.mem_append.mp hlast with hold | hlast
    · exact h.closed_dead other hother hold
    · rw [List.mem_singleton.mp hlast] at hother
      exact hclosed hother

theorem generate_recorded {s : Books} (h : Recorded s) (name : String)
    (socketType : SocketType) (highWaterMark : Int)
    (outcome : GenerateOutcome) :
    Recorded (s.enter (.generate name socketType highWaterMark outcome)) := by
  have hconstructed := construct_recorded h socketType
  cases outcome with
  | constructorThrows e => exact h
  | lingerThrows e => exact hconstructed
  | sndhwmThrows e =>
      exact ⟨hconstructed.live_nodup, hconstructed.open_nodup,
        hconstructed.live_open, hconstructed.open_issued,
        hconstructed.owned_issued, hconstructed.closed_issued,
        hconstructed.closed_dead⟩
  | ok =>
      have hfresh : s.zmq.nextSocket ∉ s.zmq.liveSockets := by
        intro hmem
        exact Nat.lt_irrefl _ (h.open_issued _ (h.live_open _ hmem))
      refine register_recorded hconstructed s.zmq.nextSocket
        List.map_append rfl rfl ?_ hfresh ?_
      · exact List.mem_append_right _ (List.mem_singleton.mpr rfl)
      · intro hmem
        exact Nat.lt_irrefl _ (h.closed_issued _ hmem)

theorem generate_balanced {s : Books} (hs : Balanced s) (name : String)
    (socketType : SocketType) (highWaterMark : Int)
    (outcome : GenerateOutcome) :
    Balanced (s.enter (.generate name socketType highWaterMark outcome)) <->
      KeepsBalance s (.generate name socketType highWaterMark outcome) := by
  have hcounted := hs.counted
  have hopened := hs.opened
  have hleak : s.zmq.allSockets.length ≠
      (s.zmq.openSockets ++ [s.zmq.nextSocket]).length := by
    rw [List.length_append, hopened]
    exact Nat.ne_of_lt (Nat.lt_succ_self _)
  cases outcome with
  | constructorThrows e => exact iff_of_true hs trivial
  | lingerThrows e => exact iff_of_false (fun h => hleak h.opened) id
  | sndhwmThrows e => exact iff_of_false (fun h => hleak h.opened) id
  | ok =>
      refine iff_of_true ?_ trivial
      constructor
      · change s.zmq.numberOfActiveSockets + 1 =
          ((s.zmq.allSockets ++ [(s.zmq.nextSocket, name)]).length : Int)
        rw [List.length_append, hcounted]
        rfl
      · change (s.zmq.allSockets ++ [(s.zmq.nextSocket, name)]).length =
          (s.zmq.openSockets ++ [s.zmq.nextSocket]).length
        rw [List.length_append, List.length_append, hopened]
        rfl
      · exact hs.closedOnce

/-!
## Sending a message
-/

inductive Afterwards (socket : SocketId) (s : State)
    (attempts : List Attempt) : Sent -> Prop where
  | kept (running : Bool) (queued : List Queued) : ¬ Fails s attempts ->
      Afterwards socket s attempts {
        zmq := { s with running := running }
        queued := queued
        closed := [] }
  | destroyed : Fails s attempts -> Afterwards socket s attempts {
      zmq := DestroySocket s (some socket)
      queued := []
      closed := [socket] }

theorem fails_of_decisive {s : State} {attempts : List Attempt} {a : Attempt}
    (ha : decisive attempts = some a) (h : Fails s attempts) :
    a.stop = false ∧ exists e, a.result = .error e := by
  rcases h with ⟨_, b, e, hb, hstop, hresult, _⟩
  rw [ha] at hb
  cases hb
  exact ⟨hstop, e, hresult⟩

theorem sendMessage_afterwards {socket : SocketId} {message : List UInt8}
    {flags : Int} {s : State} {attempts : List Attempt} {r : Sent}
    (h : sendMessage socket message flags s attempts = some r) :
    Afterwards socket s attempts r := by
  rcases sendMessage_cases h with
    ⟨hstopped, stop, rfl⟩ | ⟨hrunning, a, ha, rfl⟩
  · have hnot : ¬ Fails s attempts := by
      rintro ⟨hrunning, _⟩
      rw [hstopped] at hrunning
      cases hrunning
    cases stop with
    | true => exact Afterwards.kept false [] hnot
    | false => exact Afterwards.kept s.running [] hnot
  · unfold conclude
    cases hstop : a.stop with
    | true =>
        refine Afterwards.kept false [] (fun hfails => ?_)
        have hgoes := (fails_of_decisive ha hfails).left
        rw [hstop] at hgoes
        cases hgoes
    | false =>
        cases hresult : a.result with
        | ok queued =>
            have hnot : ¬ Fails s attempts := by
              intro hfails
              rcases (fails_of_decisive ha hfails).right with ⟨e, hthrows⟩
              rw [hresult] at hthrows
              cases hthrows
            cases queued with
            | true => exact Afterwards.kept s.running _ hnot
            | false => exact Afterwards.kept s.running [] hnot
        | error e =>
            have hother := error_of_not_interrupted
              (decisive_not_interrupted ha) hstop hresult
            exact Afterwards.destroyed
              ⟨hrunning, a, e, ha, hstop, hresult, hother⟩

/-!
## Runs
-/

theorem running_recorded {s : Books} (h : Recorded s) (running : Bool) :
    Recorded { s with
      zmq := { s.zmq with running := running }
      closed := s.closed ++ [] } := by
  rw [List.append_nil]
  exact ⟨h.live_nodup, h.open_nodup, h.live_open, h.open_issued,
    h.owned_issued, h.closed_issued, h.closed_dead⟩

theorem running_balanced {s : Books} (hs : Balanced s) (running : Bool) :
    Balanced { s with
      zmq := { s.zmq with running := running }
      closed := s.closed ++ [] } := by
  rw [List.append_nil]
  exact ⟨hs.counted, hs.opened, hs.closedOnce⟩

theorem enter_recorded (s : Books) (entry : Entry) (h : Recorded s) :
    Recorded (s.enter entry) := by
  cases entry with
  | generate name socketType highWaterMark outcome =>
      exact generate_recorded h name socketType highWaterMark outcome
  | destroy pointer =>
      cases pointer with
      | none => exact h
      | some socket =>
          rw [Books.enter]
          split
          · next howned =>
              exact destroyed_recorded h howned _ (List.filter_subset_self _)
          · exact h
  | sendMessage socket message flags attempts =>
      rw [Books.enter]
      split
      · next howned =>
          split
          · exact h
          · next r hr =>
              cases sendMessage_afterwards hr with
              | kept running queued _ => exact running_recorded h running
              | destroyed _ =>
                  exact destroyed_recorded h howned s.owned
                    (List.Subset.refl _)
      · exact h

theorem enter_balanced (s : Books) (entry : Entry) (h : Recorded s)
    (hs : Balanced s) : Balanced (s.enter entry) <-> KeepsBalance s entry := by
  cases entry with
  | generate name socketType highWaterMark outcome =>
      exact generate_balanced hs name socketType highWaterMark outcome
  | destroy pointer =>
      cases pointer with
      | none => exact iff_of_true hs trivial
      | some socket =>
          rw [Books.enter]
          split
          · next howned =>
              rw [destroyed_balanced h hs]
              exact ⟨fun hlive _ => hlive, fun hlive => hlive howned⟩
          · next hforeign =>
              exact iff_of_true hs fun howned => absurd howned hforeign
  | sendMessage socket message flags attempts =>
      rw [Books.enter]
      split
      · next howned =>
          split
          · next hnone =>
              refine iff_of_true hs fun _ hfails => ?_
              rcases hfails with ⟨hrunning, a, e, ha, _⟩
              rw [sendMessage_running hrunning, ha] at hnone
              cases hnone
          · next r hr =>
              cases sendMessage_afterwards hr with
              | kept running queued hnot =>
                  exact iff_of_true (running_balanced hs running)
                    fun _ hfails => absurd hfails hnot
              | destroyed hfails =>
                  rw [destroyed_balanced h hs]
                  exact ⟨fun hlive _ _ => hlive,
                    fun hlive => hlive howned hfails⟩
      · next hforeign =>
          exact iff_of_true hs fun howned => absurd howned hforeign

theorem initial_recorded : Recorded Books.initial := by
  constructor
  · exact List.nodup_nil
  · exact List.nodup_nil
  all_goals
    intro socket hsocket
    cases hsocket

theorem initial_balanced : Balanced Books.initial :=
  ⟨rfl, rfl, List.nodup_nil⟩

theorem books_balanced_iff (entries : List Entry) :
    Along Balanced Books.enter Books.initial entries <->
      StepsMeet KeepsBalance Books.enter Books.initial entries :=
  along_iff_stepsMeet enter_recorded enter_balanced initial_recorded
    initial_balanced entries

/--
An option that cannot be set leaves an open socket that nobody knows.  A socket that
`sendMessage` has destroyed is destroyed again by the caller who owns it.
-/
theorem books_drift :
    ¬ Along Balanced Books.enter Books.initial
        [.generate "L0" .push 100 (.lingerThrows 22)] ∧
      ¬ Along Balanced Books.enter Books.initial
        [.generate "L0" .push 100 .ok,
          .sendMessage 0 [1] 0 [⟨false, .error 88⟩], .destroy (some 0)] := by
  constructor
  · intro halong
    exact absurd (along_run halong).opened (by decide)
  · intro halong
    exact absurd (along_run halong).closedOnce (by decide)

end ZMQHandler
end Socket
end FarmNetworking
