import FarmNetworking.Monitoring.Operations

/-!
# State messages

`updateState` sends the four bytes of the enumeration as they lie in memory.  The
receiver reads four bytes from wherever its message is, without a look at the size
of the message or at the value.
-/

namespace FarmNetworking
namespace Monitoring
namespace IPCHandler

open Foundation ByteString
open Socket ZMQHandler

def stateMessage (state : STATE) : List UInt8 :=
  leBytes 4 state.toNat

/-- The value that is meant by a message, where any unknown one is an error. -/
def expectedState (data : List UInt8) : STATE :=
  if data = stateMessage OFF then OFF
  else if data = stateMessage INITIALIZING then INITIALIZING
  else if data = stateMessage RUNNING then RUNNING
  else ERROR

def Receives (s : State) (calls : Calls) : Prop :=
  s.crashed = false ∧ (enter bindServer .stateReceiver calls s).1 = true

/--
Whenever the message is received, all bytes that are read are bytes of it, and the
result is what is meant, whatever lies behind the message.
-/
def DecodedSafely (data : List UInt8) : Prop :=
  forall s calls, Receives s calls -> 4 ≤ data.length ∧
    forall behind, (tryToReceiveState s calls (.message data behind)).2 =
      expectedState data

def SafeMessage (data : List UInt8) : Prop :=
  data = stateMessage OFF ∨ data = stateMessage INITIALIZING ∨
    data = stateMessage RUNNING ∨ data.take 4 = stateMessage ERROR

/-!
## Reading
-/

theorem readState_long {data : List UInt8} (h : 4 ≤ data.length)
    (behind : List UInt8) :
    readState data behind = UInt32.ofNat (leNat (data.take 4)) := by
  rw [readState, List.take_append_of_le_length h]

theorem stateMessage_length (state : STATE) : (stateMessage state).length = 4 :=
  leBytes_length 4 state.toNat

theorem readState_stateMessage (state : STATE) (rest behind : List UInt8) :
    readState (stateMessage state ++ rest) behind = state := by
  have hlength := stateMessage_length state
  have hlong : 4 ≤ (stateMessage state ++ rest).length := by
    rw [List.length_append, hlength]
    lia
  have hsmall : state.toNat < 256 ^ 4 := UInt32.toNat_lt state
  rw [readState_long hlong, List.take_append_of_le_length hlength.ge,
    List.take_of_length_le hlength.le, stateMessage, leNat_leBytes,
    Nat.mod_eq_of_lt hsmall]
  exact UInt32.ofNat_toNat

/-- Four bytes are read as a state only if they are what is sent for it. -/
theorem take_of_readState {data : List UInt8} (h : 4 ≤ data.length)
    {behind : List UInt8} {state : STATE} (hread : readState data behind = state) :
    data.take 4 = stateMessage state := by
  have hlength : (data.take 4).length = 4 := List.length_take_of_le h
  have hlt := leNat_lt (data.take 4)
  have hbytes := leBytes_leNat (data.take 4)
  rw [hlength] at hlt hbytes
  rw [readState_long h] at hread
  have hnat : state.toNat = leNat (data.take 4) := by
    rw [← hread, UInt32.toNat_ofNat']
    exact Nat.mod_eq_of_lt hlt
  rw [stateMessage, hnat, hbytes]

theorem tryToReceiveState_message {s : State} {calls : Calls}
    (h : Receives s calls) (data behind : List UInt8) :
    (tryToReceiveState s calls (.message data behind)).2 =
      readState data behind := by
  rcases h with ⟨hcrashed, hpasses⟩
  have hguard : (Operation.tryToReceiveState calls .again).guard =
      some ⟨true, .stateReceiver, serverChannels, calls⟩ := rfl
  cases henter : enter bindServer .stateReceiver calls s with
  | mk passed t =>
      rw [henter] at hpasses
      cases hpasses
      rcases enter_passed hguard hcrashed henter with ⟨halive, hpointer⟩
      simp [tryToReceiveState, henter, recv_crashed halive hpointer]

theorem initial_receives : Receives State.initial Calls.succeed :=
  ⟨rfl, by decide⟩

/-!
## Messages
-/

theorem decodedSafely_iff (data : List UInt8) :
    DecodedSafely data <-> 4 ≤ data.length ∧
      forall behind, readState data behind = expectedState data := by
  constructor
  · intro hsafe
    rcases hsafe State.initial Calls.succeed initial_receives with
      ⟨hlong, hvalue⟩
    refine ⟨hlong, ?_⟩
    intro behind
    rw [← hvalue behind, tryToReceiveState_message initial_receives]
  · rintro ⟨hlong, hvalue⟩ s calls hreceives
    refine ⟨hlong, ?_⟩
    intro behind
    rw [tryToReceiveState_message hreceives]
    exact hvalue behind

theorem expectedState_cases (data : List UInt8) :
    (data = stateMessage (expectedState data) ∧
      (data = stateMessage OFF ∨ data = stateMessage INITIALIZING ∨
        data = stateMessage RUNNING)) ∨ expectedState data = ERROR := by
  unfold expectedState
  split
  · next hoff => exact Or.inl ⟨hoff, Or.inl hoff⟩
  · split
    · next hinit => exact Or.inl ⟨hinit, Or.inr (Or.inl hinit)⟩
    · split
      · next hrun => exact Or.inl ⟨hrun, Or.inr (Or.inr hrun)⟩
      · exact Or.inr rfl

theorem decoded_whole {data : List UInt8} {state : STATE}
    (h : data = stateMessage state) :
    4 ≤ data.length ∧ forall behind, readState data behind = state := by
  rw [h]
  refine ⟨(stateMessage_length state).ge, ?_⟩
  intro behind
  have hread := readState_stateMessage state [] behind
  rwa [List.append_nil] at hread

theorem expectedState_error {data : List UInt8}
    (h : data.take 4 = stateMessage ERROR) : expectedState data = ERROR := by
  rcases expectedState_cases data with ⟨_, hgood⟩ | herror
  · exfalso
    have htake : forall state, data = stateMessage state ->
        stateMessage state = stateMessage ERROR := by
      intro state heq
      rw [← h, heq, List.take_of_length_le (stateMessage_length state).le]
    rcases hgood with heq | heq | heq
    · exact absurd (htake OFF heq) (by decide)
    · exact absurd (htake INITIALIZING heq) (by decide)
    · exact absurd (htake RUNNING heq) (by decide)
  · exact herror

theorem decodedSafely_iff_safeMessage (data : List UInt8) :
    DecodedSafely data <-> SafeMessage data := by
  rw [decodedSafely_iff]
  constructor
  · rintro ⟨hlong, hvalue⟩
    rcases expectedState_cases data with ⟨_, hoff | hinit | hrun⟩ | herror
    · exact Or.inl hoff
    · exact Or.inr (Or.inl hinit)
    · exact Or.inr (Or.inr (Or.inl hrun))
    · have hread := hvalue []
      rw [herror] at hread
      exact Or.inr (Or.inr (Or.inr (take_of_readState hlong hread)))
  · rintro (hoff | hinit | hrun | herror)
    · rw [hoff]
      exact decoded_whole rfl
    · rw [hinit]
      exact decoded_whole rfl
    · rw [hrun]
      exact decoded_whole rfl
    · have hexpected := expectedState_error herror
      have hsplit := List.take_append_drop 4 data
      rw [herror] at hsplit
      rw [hexpected, ← hsplit]
      constructor
      · rw [List.length_append, stateMessage_length]
        lia
      · exact readState_stateMessage ERROR _

/-!
## Both ends
-/

theorem updateState_sends {s : State} {calls : Calls} (newState : STATE)
    (hcrashed : s.crashed = false)
    (h : (enter connectClient .stateSender calls s).1 = true) :
    exists socket, (updateState s newState calls .queued).sent.getLast? =
      some (socket, stateMessage newState) := by
  have hguard : (Operation.updateState newState calls .queued).guard =
      some ⟨true, .stateSender, clientChannels, calls⟩ := rfl
  cases henter : enter connectClient .stateSender calls s with
  | mk passed t =>
      rw [henter] at h
      cases h
      rcases enter_passed hguard hcrashed henter with ⟨halive, hne⟩
      cases hpointer : t.pointer .stateSender with
      | none => exact absurd hpointer hne
      | some socket =>
          refine ⟨socket, ?_⟩
          simp [updateState, henter, State.use, State.log, State.transmit,
            hpointer, halive, stateMessage]

/--
A message is decoded safely exactly if it is one of the three good ones or begins
with an error.  What `updateState` sends is received as it was.
-/
theorem state_messages_iff (data : List UInt8) :
    (DecodedSafely data <-> SafeMessage data) ∧
    forall newState s calls r calls', s.crashed = false ->
      (enter connectClient .stateSender calls s).1 = true ->
      Receives r calls' -> exists socket message,
        (updateState s newState calls .queued).sent.getLast? =
          some (socket, message) ∧
        forall behind, (tryToReceiveState r calls' (.message message behind)).2 =
          newState := by
  refine ⟨decodedSafely_iff_safeMessage data, ?_⟩
  intro newState s calls r calls' hcrashed hpasses hreceives
  rcases updateState_sends newState hcrashed hpasses with ⟨socket, hsent⟩
  refine ⟨socket, stateMessage newState, hsent, ?_⟩
  intro behind
  rw [tryToReceiveState_message hreceives]
  exact (decoded_whole rfl).right behind

theorem state_messages_running :
    DecodedSafely [2, 0, 0, 0] ∧
      exists socket message,
        (updateState State.initial RUNNING Calls.succeed .queued).sent.getLast? =
          some (socket, message) ∧
        forall behind, (tryToReceiveState State.initial Calls.succeed
          (.message message behind)).2 = RUNNING := by
  rcases state_messages_iff [2, 0, 0, 0] with ⟨hmessage, hboth⟩
  constructor
  · exact hmessage.mpr (Or.inr (Or.inr (Or.inl rfl)))
  · exact hboth RUNNING State.initial Calls.succeed State.initial Calls.succeed
      rfl (by decide) initial_receives

/-- An unknown value is passed on, and so is the memory behind a short message. -/
theorem state_messages_unchecked :
    ¬ DecodedSafely [4, 0, 0, 0] ∧ ¬ DecodedSafely [2] ∧
      (tryToReceiveState State.initial Calls.succeed
        (.message [4, 0, 0, 0] [])).2 = TIMEOUT ∧
      (tryToReceiveState State.initial Calls.succeed
        (.message [2] [1, 0, 0])).2 = 258 := by
  refine ⟨?_, ?_, by decide, by decide⟩
  · intro hsafe
    have hvalue := (hsafe State.initial Calls.succeed initial_receives).right []
    exact absurd hvalue (by decide)
  · intro hsafe
    have hlong := (hsafe State.initial Calls.succeed initial_receives).left
    exact absurd hlong (by decide)

end IPCHandler
end Monitoring
end FarmNetworking
