import FarmNetworking.Socket.BoundAddresses
import FarmNetworking.Socket.Rendezvous
import Mathlib.Data.List.Basic

/-!
# The addresses of the event builders

Every event builder thread has two channels, and their addresses are built from the
number of the thread.  `boundAddresses_` knows strings only, but different channels
never get the same string.  So a thread that connects to a channel has waited for a
call that binds this channel, not for one of another thread.
-/

namespace FarmNetworking
namespace Socket
namespace Inproc

open Foundation Runs
open ZMQHandler

def getEBL0Address (threadNum : Int32) : String :=
  "inproc://EB/" ++ toString threadNum.toInt ++ "/L0"

def getEBLKrAddress (threadNum : Int32) : String :=
  "inproc://EB/" ++ toString threadNum.toInt ++ "/LKr"

/-!
## Different channels have different addresses
-/

theorem toDigits_injective {a b : Nat} (h : Nat.toDigits 10 a = Nat.toDigits 10 b) :
    a = b := by
  have hparsed := congrArg (fun digits => Nat.ofDigitChars 10 digits 0) h
  simpa only [Nat.ofDigitChars_ten_toDigits] using hparsed

theorem toList_toString (i : Int) :
    (toString i).toList = match i with
      | .ofNat m => Nat.toDigits 10 m
      | .negSucc m => '-' :: Nat.toDigits 10 (m + 1) := by
  cases i with
  | ofNat m =>
      show (Nat.repr m).toList = _
      rw [Nat.toList_repr]
  | negSucc m =>
      show ("-" ++ Nat.repr (m + 1)).toList = _
      rw [String.toList_append, Nat.toList_repr]
      rfl

theorem toDigits_ne_sign {m : Nat} {rest : List Char} :
    Nat.toDigits 10 m ≠ '-' :: rest := by
  intro h
  have hmem : '-' ∈ Nat.toDigits 10 m := by
    rw [h]
    exact List.mem_cons_self ..
  have hdigit : '-'.isDigit = true :=
    Nat.isDigit_of_mem_toDigits (by decide) (by decide) hmem
  cases hdigit

theorem toString_injective {i j : Int} (h : toString i = toString j) : i = j := by
  have hlists := congrArg String.toList h
  rw [toList_toString, toList_toString] at hlists
  cases i with
  | ofNat a =>
      cases j with
      | ofNat b => rw [toDigits_injective hlists]
      | negSucc b => exact absurd hlists toDigits_ne_sign
  | negSucc a =>
      cases j with
      | ofNat b => exact absurd hlists.symm toDigits_ne_sign
      | negSucc b =>
          have hnumbers := toDigits_injective (List.cons.inj hlists).right
          rw [Nat.succ.inj hnumbers]

inductive Channel where
  | l0 (threadNum : Int32)
  | lKr (threadNum : Int32)
  deriving DecidableEq

def Channel.address : Channel -> String
  | .l0 threadNum => getEBL0Address threadNum
  | .lKr threadNum => getEBLKrAddress threadNum

theorem toString_int32_injective {i j : Int32}
    (h : toString i.toInt = toString j.toInt) : i = j :=
  Int32.toInt_inj.mp (toString_injective h)

theorem l0_ne_lKr (i j : Int32) : getEBL0Address i ≠ getEBLKrAddress j := by
  intro h
  have hlast := congrArg (fun s => s.toList.reverse.head?) h
  simp [getEBL0Address, getEBLKrAddress] at hlast

theorem address_injective {a b : Channel} (h : a.address = b.address) : a = b := by
  cases a with
  | l0 i =>
      cases b with
      | l0 j =>
          have hnumbers : toString i.toInt = toString j.toInt := by
            simpa [Channel.address, getEBL0Address] using h
          rw [toString_int32_injective hnumbers]
      | lKr j => exact absurd h (l0_ne_lKr i j)
  | lKr i =>
      cases b with
      | l0 j => exact absurd h.symm (l0_ne_lKr j i)
      | lKr j =>
          have hnumbers : toString i.toInt = toString j.toInt := by
            simpa [Channel.address, getEBLKrAddress] using h
          rw [toString_int32_injective hnumbers]

/-!
## Who has bound an address
-/

section System

variable {thread : Type*}

structure BoundBy (B : String -> Prop) (s : State thread) : Prop where
  sound : Sound s
  announced : forall address, Announced s address -> B address
  connects : forall c, c ∈ s.connects -> B c.address

theorem initial_boundBy (B : String -> Prop) : BoundBy B (State.initial : State thread) :=
  ⟨initial_sound, nofun, nofun⟩

section Steps

variable [DecidableEq thread]

theorem goto_announced {s : State thread} {t : thread} {pc : Pc} {address : String}
    (h : Announced (s.goto t pc) address) :
    Announced s address ∨ pc.announces = some address := by
  rcases h with hmem | ⟨u, hu⟩
  · exact Or.inl (Or.inl hmem)
  · change (Function.update s.pc t pc u).announces = _ at hu
    by_cases heq : u = t
    · rw [heq, Function.update_self] at hu
      exact Or.inr hu
    · rw [Function.update_of_ne heq] at hu
      exact Or.inl (Or.inr ⟨u, hu⟩)

theorem step_announced {s : State thread} {a : Action thread} {address : String}
    (h : Announced (step s a) address) :
    Announced s address ∨ exists t socket, a = .BindInproc t socket address := by
  cases a with
  | proceed t error => exact Or.inl (move_announced (proceed_move s t error) h)
  | GenerateSocket t name socketType highWaterMark outcome =>
      left
      unfold step at h
      dsimp only at h
      split at h
      · exact h
      · exact h
  | DestroySocket t pointer =>
      left
      unfold step at h
      dsimp only at h
      split at h
      · exact h
      · exact h
  | BindInproc t socket other =>
      unfold step at h
      dsimp only at h
      split at h
      · rcases goto_announced h with hold | hnew
        · exact Or.inl hold
        · cases hnew
          exact Or.inr ⟨t, socket, rfl⟩
      · exact Or.inl h
  | ConnectInproc t socket other =>
      left
      unfold step at h
      dsimp only at h
      split at h
      · rcases goto_announced h with hold | hnew
        · exact hold
        · cases hnew
      · exact h

theorem step_connects {s : State thread} (h : Sound s) {a : Action thread}
    {c : Connect} (hc : c ∈ (step s a).connects) :
    c ∈ s.connects ∨ c.address ∈ s.boundAddresses := by
  have hcourse := step_course h a
  generalize step s a = s' at hcourse hc
  cases hcourse with
  | keeps _ _ _ _ hconnects =>
      rw [hconnects] at hc
      exact Or.inl hc
  | inserts t socket address _ _ => exact Or.inl hc
  | connects _ socket address _ hmem _ _ hconnects =>
      rw [hconnects] at hc
      rcases List.mem_append.mp hc with hold | hnew
      · exact Or.inl hold
      · rw [List.mem_singleton.mp hnew]
        exact Or.inr hmem
  | destroys socket _ => exact Or.inl hc

theorem step_boundBy {B : String -> Prop} {s : State thread} {a : Action thread}
    (h : BoundBy B s)
    (ha : forall t socket address, a = .BindInproc t socket address -> B address) :
    BoundBy B (step s a) := by
  refine ⟨step_sound s a h.sound, ?_, ?_⟩
  · intro address hannounced
    rcases step_announced hannounced with hold | ⟨t, socket, hbind⟩
    · exact h.announced address hold
    · exact ha t socket address hbind
  · intro c hc
    rcases step_connects h.sound hc with hold | hmem
    · exact h.connects c hold
    · exact h.announced c.address (Or.inl hmem)

end Steps

/-!
## Calls for channels
-/

/-- The calls of a program that binds and connects the channels only. -/
inductive Call (thread : Type*) where
  | GenerateSocket (t : thread) (name : String) (socketType : SocketType)
      (highWaterMark : Int) (outcome : GenerateOutcome)
  | DestroySocket (t : thread) (pointer : Option SocketId)
  | BindInproc (t : thread) (socket : SocketId) (channel : Channel)
  | ConnectInproc (t : thread) (socket : SocketId) (channel : Channel)
  | proceed (t : thread) (error : Option Errno)

def Call.action : Call thread -> Action thread
  | .GenerateSocket t name socketType highWaterMark outcome =>
      .GenerateSocket t name socketType highWaterMark outcome
  | .DestroySocket t pointer => .DestroySocket t pointer
  | .BindInproc t socket channel => .BindInproc t socket channel.address
  | .ConnectInproc t socket channel => .ConnectInproc t socket channel.address
  | .proceed t error => .proceed t error

def Binds (calls : List (Call thread)) (channel : Channel) : Prop :=
  exists t socket, Call.BindInproc t socket channel ∈ calls

structure Uncrossed (calls : List (Call thread)) (s : State thread) : Prop where
  bound : forall channel, channel.address ∈ s.boundAddresses -> Binds calls channel
  connects : forall c, c ∈ s.connects -> exists channel, Binds calls channel ∧
    forall other : Channel, c.address = other.address <-> other = channel

/--
In every interleaving, a channel counts as bound only if a call has begun to bind
this very channel, and every connect is one to such a channel and to no other.
-/
theorem channels_uncrossed [DecidableEq thread] (calls : List (Call thread)) :
    Uncrossed calls (run step State.initial (calls.map Call.action)) := by
  have hbinds : forall a, a ∈ calls.map Call.action -> forall t socket address,
      a = .BindInproc t socket address ->
        exists channel : Channel, Binds calls channel ∧ address = channel.address := by
    rintro a ha t socket address rfl
    rcases List.mem_map.mp ha with ⟨call, hcall, haction⟩
    cases call with
    | BindInproc _ _ channel =>
        cases haction
        exact ⟨channel, ⟨t, socket, hcall⟩, rfl⟩
    | _ => cases haction
  have hmeet : StepsMeet (fun _ a => forall t socket address,
      a = .BindInproc t socket address ->
        exists channel : Channel, Binds calls channel ∧ address = channel.address)
      step (State.initial : State thread) (calls.map Call.action) :=
    stepsMeet_of_mem (fun a ha _ => hbinds a ha) _
  have hrun := run_invariant_of_stepsMeet
    (fun s a h ha => step_boundBy h ha) (initial_boundBy _) hmeet
  refine ⟨?_, ?_⟩
  · intro channel hmem
    rcases hrun.announced _ (Or.inl hmem) with ⟨other, hbinds, haddress⟩
    rw [address_injective haddress]
    exact hbinds
  · intro c hc
    rcases hrun.connects c hc with ⟨channel, hbinds, haddress⟩
    refine ⟨channel, hbinds, ?_⟩
    intro other
    rw [haddress]
    exact ⟨fun h => (address_injective h).symm, fun h => by rw [h]⟩

end System

end Inproc
end Socket
end FarmNetworking
