import FarmNetworking.Dim.DimListener
import FarmNetworking.Foundation.Runs

/-!
# Listeners and published values

A session is a listener with the events that DIM and the program have produced so
far.  The calls that its callbacks should see are a function of these events
alone; the handler makes them, and others when a link is lost.
-/

namespace FarmNetworking
namespace Dim

open Foundation Runs
open Structs

variable {callback : Type}

/-!
## The integer services together
-/

namespace DimListener

def register (l : DimListener callback) (n : Number) (c : callback) :
    DimListener callback :=
  match n with
  | .nextBurstNumber => l.registerNextBurstNumberListener c
  | .burstNumber => l.registerBurstNumberListener c
  | .runNumber => l.registerRunNumberListener c
  | .sob => l.registerSobListener c
  | .eob => l.registerEobListener c

def setNumber (l : DimListener callback) (n : Number) (value : Int32) :
    DimListener callback :=
  match n with
  | .nextBurstNumber => { l with nextBurstNumber_ := value }
  | .burstNumber => { l with burstNumber_ := value }
  | .runNumber => { l with runNumber_ := value }
  | .sob => { l with sobTS_ := value }
  | .eob => { l with eobTS_ := value }

def callbacks (l : DimListener callback) : Number -> List callback
  | .nextBurstNumber => l.nextBurstNumberCallbacks
  | .burstNumber => l.burstNumberCallbacks
  | .runNumber => l.runNumberCallbacks
  | .sob => l.sobCallbacks
  | .eob => l.eobCallbacks

theorem callbacks_register (l : DimListener callback) (n m : Number)
    (c : callback) :
    (l.register n c).callbacks m =
      l.callbacks m ++ if n = m then [c] else [] := by
  cases n <;> cases m <;> simp [register, callbacks,
    registerNextBurstNumberListener, registerBurstNumberListener,
    registerRunNumberListener, registerSobListener, registerEobListener]

@[simp] theorem callbacks_setNumber (l : DimListener callback) (n m : Number)
    (value : Int32) : (l.setNumber n value).callbacks m = l.callbacks m := by
  cases n <;> rfl

theorem infoHandler_setNumber (l : DimListener callback) (n : Number)
    (value : Int32) :
    ((l.setNumber n value).infoHandler (.number n)).calls =
      (l.callbacks n).map fun c => .number c value.toUInt32 := by
  cases n <;> rfl

end DimListener

/-!
## Sessions
-/

inductive Event (callback : Type) where
  | register (n : Number) (c : callback)
  | registerBurstTimeInfo (c : callback)
  | publish (n : Number) (value : Int32)
  | publishBurstTimeInfo (payload : Payload)
  | loseLink (n : Number)

structure Session (callback : Type) where
  listener : DimListener callback
  history : List (Event callback)
  calls : List (Call callback)

namespace Session

def initial : Session callback where
  listener := DimListener.initial
  history := []
  calls := []

/-- DIM has changed a service and runs the handler. -/
def handle (s : Session callback) (l : DimListener callback) (curr : Service)
    (e : Event callback) : Session callback where
  listener := l
  history := s.history ++ [e]
  calls := s.calls ++ (l.infoHandler curr).calls

def extend (s : Session callback) (l : DimListener callback)
    (e : Event callback) : Session callback where
  listener := l
  history := s.history ++ [e]
  calls := s.calls

/-- A lost link is an update to the value given to the constructor. -/
def step (s : Session callback) (e : Event callback) : Session callback :=
  match e with
  | .register n c => s.extend (s.listener.register n c) e
  | .registerBurstTimeInfo c =>
      s.extend (s.listener.registerBurstTimeInfoListener c) e
  | .publish n value => s.handle (s.listener.setNumber n value) (.number n) e
  | .publishBurstTimeInfo payload =>
      s.handle { s.listener with burstTimeInfo_ := payload } .burstTimeInfo e
  | .loseLink n => s.handle (s.listener.setNumber n (noLink n)) (.number n) e

end Session

/-!
## The calls that callbacks should see
-/

def Event.registers (n : Number) : Event callback -> Option callback
  | .register m c => if m = n then some c else none
  | _ => none

def registered (n : Number) (history : List (Event callback)) : List callback :=
  history.filterMap (Event.registers n)

def answers (before : List (Event callback)) :
    Event callback -> List (callback × UInt32)
  | .publish n value =>
      (registered n before).map fun c => (c, value.toUInt32)
  | _ => []

def expected (before : List (Event callback)) :
    List (Event callback) -> List (callback × UInt32)
  | [] => []
  | e :: rest => answers before e ++ expected (before ++ [e]) rest

theorem registered_append (n : Number) (a b : List (Event callback)) :
    registered n (a ++ b) = registered n a ++ registered n b :=
  List.filterMap_append

theorem expected_append (before a b : List (Event callback)) :
    expected before (a ++ b) =
      expected before a ++ expected (before ++ a) b := by
  induction a generalizing before with
  | nil => simp [expected]
  | cons e rest ih =>
      simp only [List.cons_append, expected, ih, List.append_assoc,
        List.nil_append]

theorem expected_snoc (history : List (Event callback)) (e : Event callback) :
    expected [] (history ++ [e]) = expected [] history ++ answers history e := by
  rw [expected_append, List.nil_append, expected, expected, List.append_nil]

def Call.number? : Call callback -> Option (callback × UInt32)
  | .number c value => some (c, value)
  | .burstTimeInfo _ _ => none

def numberCalls (calls : List (Call callback)) : List (callback × UInt32) :=
  calls.filterMap Call.number?

theorem numberCalls_append (a b : List (Call callback)) :
    numberCalls (a ++ b) = numberCalls a ++ numberCalls b :=
  List.filterMap_append

theorem numberCalls_number (cs : List callback) (value : UInt32) :
    numberCalls (cs.map fun c => .number c value) =
      cs.map fun c => (c, value) := by
  induction cs with
  | nil => rfl
  | cons c rest ih =>
      rw [List.map_cons, List.map_cons, ← ih]
      rfl

theorem numberCalls_burstTimeInfo (l : DimListener callback) :
    numberCalls (l.infoHandler .burstTimeInfo).calls = [] := by
  have hnone : forall (cs : List callback) (bti : BurstTimeInfo),
      numberCalls (cs.map fun c => .burstTimeInfo c bti) = [] := by
    intro cs bti
    rw [numberCalls, List.filterMap_map]
    exact List.filterMap_eq_nil_iff.mpr fun _ _ => rfl
  simp only [DimListener.infoHandler]
  split
  · dsimp only
    split
    · exact hnone _ _
    · rfl
  · rfl

/-!
## One step
-/

def ListsRegistered (s : Session callback) : Prop :=
  forall n, s.listener.callbacks n = registered n s.history

def SeesPublished (s : Session callback) : Prop :=
  numberCalls s.calls = expected [] s.history

def KeepsLink (s : Session callback) : Event callback -> Prop
  | .loseLink n => s.listener.callbacks n = []
  | _ => True

theorem step_history (s : Session callback) (e : Event callback) :
    (s.step e).history = s.history ++ [e] := by
  cases e <;> rfl

theorem step_listsRegistered (s : Session callback) (e : Event callback)
    (h : ListsRegistered s) : ListsRegistered (s.step e) := by
  intro n
  rw [step_history, registered_append, ← h n]
  cases e with
  | register m c =>
      show (s.listener.register m c).callbacks n = _
      rw [DimListener.callbacks_register]
      split
      next heq => simp [registered, Event.registers, heq]
      next hne => simp [registered, Event.registers, hne]
  | registerBurstTimeInfo c =>
      show (s.listener.registerBurstTimeInfoListener c).callbacks n = _
      cases n <;> exact (List.append_nil _).symm
  | publish m value =>
      show (s.listener.setNumber m value).callbacks n = _
      rw [DimListener.callbacks_setNumber]
      exact (List.append_nil _).symm
  | publishBurstTimeInfo payload =>
      cases n <;> exact (List.append_nil _).symm
  | loseLink m =>
      show (s.listener.setNumber m (noLink m)).callbacks n = _
      rw [DimListener.callbacks_setNumber]
      exact (List.append_nil _).symm

theorem step_numberCalls (s : Session callback) (e : Event callback)
    (h : ListsRegistered s) :
    numberCalls (s.step e).calls =
      numberCalls s.calls ++
        match e with
        | .loseLink n =>
            (s.listener.callbacks n).map fun c => (c, (noLink n).toUInt32)
        | e => answers s.history e := by
  cases e with
  | register n c => exact (List.append_nil _).symm
  | registerBurstTimeInfo c => exact (List.append_nil _).symm
  | publish n value =>
      simp only [Session.step, Session.handle, numberCalls_append,
        DimListener.infoHandler_setNumber, numberCalls_number, h n, answers]
  | publishBurstTimeInfo payload =>
      simp only [Session.step, Session.handle, numberCalls_append,
        numberCalls_burstTimeInfo, answers]
  | loseLink n =>
      simp only [Session.step, Session.handle, numberCalls_append,
        DimListener.infoHandler_setNumber, numberCalls_number]

theorem step_seesPublished_iff (s : Session callback) (e : Event callback)
    (h : ListsRegistered s) (hsees : SeesPublished s) :
    SeesPublished (s.step e) <-> KeepsLink s e := by
  rw [SeesPublished, step_history, expected_snoc, ← hsees,
    step_numberCalls s e h, List.append_cancel_left_eq]
  cases e with
  | loseLink n =>
      show List.map _ _ = [] <-> _
      exact List.map_eq_nil_iff
  | register n c => exact ⟨fun _ => trivial, fun _ => rfl⟩
  | registerBurstTimeInfo c => exact ⟨fun _ => trivial, fun _ => rfl⟩
  | publish n value => exact ⟨fun _ => trivial, fun _ => rfl⟩
  | publishBurstTimeInfo payload => exact ⟨fun _ => trivial, fun _ => rfl⟩

/-!
## A single registration

For a function that is registered once the expected calls are the values that
its service publishes from then on.
-/

section Registration

variable [DecidableEq callback]

def valuesFor (c : callback) (pairs : List (callback × UInt32)) : List UInt32 :=
  pairs.filterMap fun pair => if pair.1 = c then some pair.2 else none

/-- The value that an event publishes on a service, as a callback sees it. -/
def Event.publishes (n : Number) : Event callback -> Option UInt32
  | .publish m value => if m = n then some value.toUInt32 else none
  | _ => none

def publishedOn (n : Number) (events : List (Event callback)) : List UInt32 :=
  events.filterMap (Event.publishes n)

def Unregistered (c : callback) (events : List (Event callback)) : Prop :=
  forall e, e ∈ events -> forall n, Event.registers n e ≠ some c

theorem valuesFor_append (c : callback) (a b : List (callback × UInt32)) :
    valuesFor c (a ++ b) = valuesFor c a ++ valuesFor c b :=
  List.filterMap_append

theorem valuesFor_map (c : callback) (cs : List callback) (value : UInt32) :
    valuesFor c (cs.map fun d => (d, value)) =
      List.replicate (cs.count c) value := by
  induction cs with
  | nil => rfl
  | cons d rest ih =>
      by_cases h : d = c
      · rw [h, List.count_cons_self, List.replicate_succ, ← ih]
        simp [valuesFor]
      · rw [List.count_cons_of_ne h, ← ih]
        simp [valuesFor, h]

theorem count_registered {c : callback} {events : List (Event callback)}
    (h : Unregistered c events) (n : Number) :
    (registered n events).count c = 0 := by
  rw [List.count_eq_zero]
  intro hmem
  rcases List.mem_filterMap.mp hmem with ⟨e, he, hregisters⟩
  exact h e he n hregisters

/--
A function that is registered `k` times for one service sees every value of this
service `k` times.
-/
theorem valuesFor_expected {c : callback} {n : Number} {k : Nat}
    (events : List (Event callback)) (hevents : Unregistered c events)
    (before : List (Event callback))
    (hcount : forall m, (registered m before).count c = if m = n then k else 0) :
    valuesFor c (expected before events) =
      (publishedOn n events).flatMap fun value => List.replicate k value := by
  induction events generalizing before with
  | nil => rfl
  | cons e rest ih =>
      have hhead : Unregistered c [e] := by
        intro e' he'
        rw [List.mem_singleton.mp he']
        exact hevents e (List.mem_cons_self ..)
      have hrest : Unregistered c rest :=
        fun e' he' => hevents e' (List.mem_cons_of_mem e he')
      have hcount' : forall m, (registered m (before ++ [e])).count c =
          if m = n then k else 0 := by
        intro m
        rw [registered_append, List.count_append, count_registered hhead,
          Nat.add_zero]
        exact hcount m
      have hanswers : valuesFor c (answers before e) =
          (publishedOn n [e]).flatMap fun value => List.replicate k value := by
        cases e with
        | publish m value =>
            rw [answers, valuesFor_map, hcount m]
            split
            next heq => simp [publishedOn, Event.publishes, heq]
            next hne => simp [publishedOn, Event.publishes, hne]
        | register m d => rfl
        | registerBurstTimeInfo d => rfl
        | publishBurstTimeInfo payload => rfl
        | loseLink m => rfl
      have hsplit : publishedOn n (e :: rest) =
          publishedOn n [e] ++ publishedOn n rest :=
        List.filterMap_append (l := [e])
      rw [expected, valuesFor_append, hanswers, ih hrest _ hcount', hsplit,
        List.flatMap_append]

theorem valuesFor_registration {c : callback} {n : Number}
    {before after : List (Event callback)} (hbefore : Unregistered c before)
    (hafter : Unregistered c after) :
    valuesFor c (expected [] (before ++ .register n c :: after)) =
      publishedOn n after := by
  have hnone : valuesFor c (expected [] before) = [] := by
    have hexpected := valuesFor_expected (n := n) (k := 0) before hbefore [] (by
      intro m
      split <;> rfl)
    rw [hexpected]
    simp
  have hcount : forall m,
      (registered m (before ++ [.register n c])).count c =
        if m = n then 1 else 0 := by
    intro m
    rw [registered_append, List.count_append, count_registered hbefore,
      Nat.zero_add]
    by_cases h : m = n
    · simp [registered, Event.registers, h]
    · have hne : n ≠ m := fun heq => h heq.symm
      simp [registered, Event.registers, h, hne]
  have hsingle : forall values : List UInt32,
      (values.flatMap fun value => List.replicate 1 value) = values := by
    intro values
    exact List.flatMap_singleton' values
  rw [expected_append, valuesFor_append, hnone, List.nil_append,
    List.nil_append, expected, valuesFor_append,
    valuesFor_expected after hafter _ hcount, hsingle]
  rfl

end Registration

/-!
## Runs
-/

theorem initial_listsRegistered :
    ListsRegistered (Session.initial : Session callback) := by
  intro n
  cases n <;> rfl

theorem run_history (s : Session callback) (events : List (Event callback)) :
    (run Session.step s events).history = s.history ++ events := by
  induction events generalizing s with
  | nil => exact (List.append_nil _).symm
  | cons e rest ih =>
      rw [run_cons, ih, step_history, List.append_assoc]
      rfl

/--
The calls are the expected ones all along a session exactly if no service with
registered callbacks loses its link.  In such a session a function registered
once sees what its service publishes after the registration, and nothing else.
-/
theorem sees_published_iff [DecidableEq callback]
    (events : List (Event callback)) :
    (Along SeesPublished Session.step Session.initial events <->
      StepsMeet KeepsLink Session.step Session.initial events) ∧
    (StepsMeet KeepsLink Session.step Session.initial events ->
      forall (n : Number) (c : callback) (before after : List (Event callback)),
        events = before ++ .register n c :: after ->
        Unregistered c before -> Unregistered c after ->
          valuesFor c (numberCalls
            (run Session.step Session.initial events).calls) =
              publishedOn n after) := by
  have hiff : Along SeesPublished Session.step Session.initial events <->
      StepsMeet KeepsLink Session.step Session.initial events :=
    along_iff_stepsMeet step_listsRegistered step_seesPublished_iff
      initial_listsRegistered rfl events
  constructor
  · exact hiff
  · intro hmeet n c before after hevents hbefore hafter
    have hsees : SeesPublished (run Session.step Session.initial events) :=
      along_run (hiff.mpr hmeet)
    rw [hsees, run_history]
    show valuesFor c (expected [] ([] ++ events)) = _
    rw [List.nil_append, hevents]
    exact valuesFor_registration hbefore hafter

/-- The callback of the run number is told 4294967295 when the link is lost. -/
theorem lost_link_is_heard :
    ¬Along SeesPublished Session.step Session.initial
      [.register .runNumber (), .publish .runNumber 7, .loseLink .runNumber] := by
  rintro ⟨_, _, _, hlast⟩
  revert hlast
  show ¬[((), 7), ((), 4294967295)] = [((), (7 : UInt32))]
  decide

end Dim
end FarmNetworking
