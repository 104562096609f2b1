import FarmNetworking.Dim.Listeners

/-!
# Whole sessions

All that a listener does is a function of the events so far: the calls of its
callbacks, a lost link included, and the answers of its five getters.  A callback
is told what the getter of its service answers at that moment.
-/

namespace FarmNetworking
namespace Dim

open Foundation Runs
open Structs

variable {callback : Type}

namespace DimListener

section Getters

variable (l : DimListener callback)

def getEobTimeStamp : UInt32 :=
  l.eobTS_.toUInt32

def getSobTimeStamp : UInt32 :=
  l.sobTS_.toUInt32

def getRunNumber : UInt32 :=
  l.runNumber_.toUInt32

def getBurstNumber : UInt32 :=
  l.burstNumber_.toUInt32

def getNextBurstNumber : UInt32 :=
  l.nextBurstNumber_.toUInt32

def getNumber : Number -> UInt32
  | .nextBurstNumber => l.getNextBurstNumber
  | .burstNumber => l.getBurstNumber
  | .runNumber => l.getRunNumber
  | .sob => l.getSobTimeStamp
  | .eob => l.getEobTimeStamp

end Getters

@[simp] theorem getNumber_register (l : DimListener callback) (n m : Number)
    (c : callback) : (l.register n c).getNumber m = l.getNumber m := by
  cases n <;> rfl

theorem getNumber_setNumber (l : DimListener callback) (n m : Number)
    (value : Int32) :
    (l.setNumber n value).getNumber m =
      if n = m then value.toUInt32 else l.getNumber m := by
  cases n <;> cases m <;> rfl

end DimListener

/-!
## What the events amount to
-/

def Event.sets (n : Number) : Event callback -> Option Int32
  | .publish m value => if m = n then some value else none
  | .loseLink m => if m = n then some (noLink n) else none
  | .register _ _ | .registerBurstTimeInfo _ | .publishBurstTimeInfo _ => none

def latest (n : Number) (history : List (Event callback)) : Int32 :=
  ((history.filterMap (Event.sets n)).getLast?).getD (noLink n)

def Event.registersBurstTimeInfo : Event callback -> Option callback
  | .registerBurstTimeInfo c => some c
  | .register _ _ | .publish _ _ | .publishBurstTimeInfo _ | .loseLink _ => none

def registeredBurstTimeInfo (history : List (Event callback)) : List callback :=
  history.filterMap Event.registersBurstTimeInfo

def heard (before : List (Event callback)) (e : Event callback) :
    List (Call callback) :=
  match e with
  | .publish n _ | .loseLink n =>
      (registered n before).map fun c =>
        .number c (latest n (before ++ [e])).toUInt32
  | .publishBurstTimeInfo payload =>
      let bti := decodeBurstTime payload.memory
      if payload.bytes.length ≠ 0 ∧ bti.eobTime ≠ 0 ∧ bti.runNumber ≠ 0 then
        (registeredBurstTimeInfo before).map fun c => .burstTimeInfo c bti
      else []
  | .register _ _ | .registerBurstTimeInfo _ => []

def heardIn (before : List (Event callback)) :
    List (Event callback) -> List (Call callback)
  | [] => []
  | e :: rest => heard before e ++ heardIn (before ++ [e]) rest

theorem latest_append (n : Number) (history : List (Event callback))
    (e : Event callback) :
    latest n (history ++ [e]) = (e.sets n).getD (latest n history) := by
  unfold latest
  rw [List.filterMap_append]
  cases hsets : e.sets n with
  | none => simp [hsets]
  | some value => simp [hsets]

theorem registeredBurstTimeInfo_append (a b : List (Event callback)) :
    registeredBurstTimeInfo (a ++ b) =
      registeredBurstTimeInfo a ++ registeredBurstTimeInfo b :=
  List.filterMap_append

theorem heardIn_append (before a b : List (Event callback)) :
    heardIn before (a ++ b) = heardIn before a ++ heardIn (before ++ a) b := by
  induction a generalizing before with
  | nil => simp [heardIn]
  | cons e rest ih =>
      simp only [List.cons_append, heardIn, ih, List.append_assoc, List.nil_append]

/-!
## One step
-/

structure Accurate (s : Session callback) : Prop where
  lists : ListsRegistered s
  burstTimeInfo : s.listener.burstTimeInfoCallbacks =
    registeredBurstTimeInfo s.history
  getters : forall n, s.listener.getNumber n = (latest n s.history).toUInt32
  calls : s.calls = heardIn [] s.history

theorem initial_accurate : Accurate (Session.initial : Session callback) where
  lists := initial_listsRegistered
  burstTimeInfo := rfl
  getters := fun n => by cases n <;> rfl
  calls := rfl

section Steps

variable {s : Session callback} {e : Event callback}

theorem step_getNumber (h : Accurate s) (n : Number) :
    (s.step e).listener.getNumber n = (latest n (s.step e).history).toUInt32 := by
  have hold := h.getters n
  rw [step_history, latest_append]
  cases e with
  | register m c => exact (DimListener.getNumber_register _ _ _ _).trans hold
  | registerBurstTimeInfo c => cases n <;> exact hold
  | publish m value =>
      refine (DimListener.getNumber_setNumber _ _ _ _).trans ?_
      rw [Event.sets]
      split
      · rfl
      · exact hold
  | publishBurstTimeInfo payload => cases n <;> exact hold
  | loseLink m =>
      refine (DimListener.getNumber_setNumber _ _ _ _).trans ?_
      rw [Event.sets]
      split
      · next heq => rw [heq]; rfl
      · exact hold

theorem step_burstTimeInfo (h : Accurate s) :
    (s.step e).listener.burstTimeInfoCallbacks =
      registeredBurstTimeInfo (s.step e).history := by
  rw [step_history, registeredBurstTimeInfo_append, ← h.burstTimeInfo]
  cases e with
  | registerBurstTimeInfo c => rfl
  | register m c => cases m <;> exact (List.append_nil _).symm
  | publish m value => cases m <;> exact (List.append_nil _).symm
  | publishBurstTimeInfo payload => exact (List.append_nil _).symm
  | loseLink m => cases m <;> exact (List.append_nil _).symm

theorem step_calls (h : Accurate s) :
    (s.step e).calls = s.calls ++ heard s.history e := by
  cases e with
  | register m c => exact (List.append_nil _).symm
  | registerBurstTimeInfo c => exact (List.append_nil _).symm
  | publish n value =>
      have hlatest : latest n (s.history ++ [.publish n value]) = value := by
        rw [latest_append, Event.sets, if_pos rfl]
        rfl
      refine congrArg (s.calls ++ ·) ?_
      rw [DimListener.infoHandler_setNumber, h.lists n, heard, hlatest]
  | loseLink n =>
      have hlatest : latest n (s.history ++ [.loseLink n]) = noLink n := by
        rw [latest_append, Event.sets, if_pos rfl]
        rfl
      refine congrArg (s.calls ++ ·) ?_
      rw [DimListener.infoHandler_setNumber, h.lists n, heard, hlatest]
  | publishBurstTimeInfo payload =>
      refine congrArg (s.calls ++ ·) ?_
      simp only [DimListener.infoHandler, heard, ← h.burstTimeInfo]
      by_cases hempty : payload.bytes.length = 0
      · simp [hempty]
      · simp [hempty, decodeBurstTime]

theorem step_accurate (s : Session callback) (e : Event callback)
    (h : Accurate s) : Accurate (s.step e) where
  lists := step_listsRegistered s e h.lists
  burstTimeInfo := step_burstTimeInfo h
  getters := step_getNumber h
  calls := by
    rw [step_calls h, step_history, heardIn_append, h.calls, List.nil_append,
      heardIn, heardIn, List.append_nil]

end Steps

/-!
## Runs
-/

/-- Where the numbers come from that callbacks are told. -/
structure Traced (events : List (Event callback)) (s : Session callback) :
    Prop where
  calls : s.calls = heardIn [] events
  getters : forall n, s.listener.getNumber n = (latest n events).toUInt32
  told : forall before e after, events = before ++ e :: after ->
    forall c value, .number c value ∈ heard before e ->
      exists n, c ∈ registered n before ∧ value =
        (run Session.step Session.initial (before ++ [e])).listener.getNumber n

/-- The events of a session decide about all calls and all getters. -/
theorem session_traced (events : List (Event callback)) :
    Traced events (run Session.step Session.initial events) := by
  have haccurate : forall events : List (Event callback),
      Accurate (run Session.step Session.initial events) :=
    run_invariant (I := Accurate) step_accurate initial_accurate
  have hhistory : forall events : List (Event callback),
      (run Session.step Session.initial events).history = events :=
    run_history Session.initial
  have hgetters : forall (events : List (Event callback)) n,
      (run Session.step Session.initial events).listener.getNumber n =
        (latest n events).toUInt32 := by
    intro events n
    rw [(haccurate events).getters n, hhistory]
  refine ⟨?_, hgetters events, ?_⟩
  · rw [(haccurate events).calls, hhistory]
  · intro before e after _ c value hcall
    cases e with
    | publish n published =>
        rcases List.mem_map.mp hcall with ⟨d, hd, hsame⟩
        cases hsame
        exact ⟨n, hd, (hgetters _ n).symm⟩
    | loseLink n =>
        rcases List.mem_map.mp hcall with ⟨d, hd, hsame⟩
        cases hsame
        exact ⟨n, hd, (hgetters _ n).symm⟩
    | publishBurstTimeInfo payload =>
        unfold heard at hcall
        dsimp only at hcall
        split at hcall
        · rcases List.mem_map.mp hcall with ⟨d, _, hsame⟩
          cases hsame
        · cases hcall
    | register n d => cases hcall
    | registerBurstTimeInfo d => cases hcall

end Dim
end FarmNetworking
