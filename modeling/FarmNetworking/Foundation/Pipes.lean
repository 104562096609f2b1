import Mathlib.Data.List.Basic
import Mathlib.Logic.Function.Basic
import Mathlib.Logic.Relation

/-!
# Pipes that may lose messages

A pipe takes messages at one end and delivers them at the other.  It may lose any
of them on the way, but it neither invents nor repeats nor overtakes.

The first and the last field are history.  What a reader of a pipe can rely on is
that the messages delivered so far, followed by those in flight, are a sublist of
the messages written.
-/

namespace FarmNetworking
namespace Foundation

structure Pipe (message : Type*) where
  written : List message
  inFlight : List message
  delivered : List message

namespace Pipe

variable {message : Type*}

def empty : Pipe message where
  written := []
  inFlight := []
  delivered := []

def write (p : Pipe message) (m : message) : Pipe message :=
  { p with written := p.written ++ [m], inFlight := p.inFlight ++ [m] }

def lose (p : Pipe message) (i : Nat) : Pipe message :=
  { p with inFlight := p.inFlight.eraseIdx i }

def deliver (p : Pipe message) : Pipe message :=
  { p with
    inFlight := p.inFlight.tail
    delivered := p.delivered ++ p.inFlight.head?.toList }

def writeAll (p : Pipe message) (ms : List message) : Pipe message :=
  ms.foldl write p

/-- Nothing but loss happens to a message between the two ends. -/
def Ordered (p : Pipe message) : Prop :=
  (p.delivered ++ p.inFlight).Sublist p.written

theorem empty_ordered : Ordered (empty : Pipe message) :=
  List.Sublist.refl []

section Ordered

variable {p : Pipe message}

theorem write_ordered (h : p.Ordered) (m : message) : (p.write m).Ordered := by
  change (p.delivered ++ (p.inFlight ++ [m])).Sublist (p.written ++ [m])
  rw [← List.append_assoc]
  exact h.append (List.Sublist.refl [m])

theorem lose_ordered (h : p.Ordered) (i : Nat) : (p.lose i).Ordered := by
  have hless : (p.inFlight.eraseIdx i).Sublist p.inFlight :=
    List.eraseIdx_sublist ..
  exact ((List.Sublist.refl p.delivered).append hless).trans h

theorem deliver_ordered (h : p.Ordered) : p.deliver.Ordered := by
  have hsame : p.deliver.delivered ++ p.deliver.inFlight =
      p.delivered ++ p.inFlight := by
    cases hflight : p.inFlight with
    | nil => simp [deliver, hflight]
    | cons m rest => simp [deliver, hflight]
  change List.Sublist _ _
  rw [hsame]
  exact h

theorem writeAll_ordered (h : p.Ordered) (ms : List message) :
    (p.writeAll ms).Ordered := by
  induction ms generalizing p with
  | nil => exact h
  | cons m rest ih => exact ih (write_ordered h m)

theorem Ordered.delivered_sublist (h : p.Ordered) :
    p.delivered.Sublist p.written :=
  (List.sublist_append_left _ _).trans h

end Ordered

@[simp] theorem writeAll_written (p : Pipe message) (ms : List message) :
    (p.writeAll ms).written = p.written ++ ms := by
  induction ms generalizing p with
  | nil => exact (List.append_nil _).symm
  | cons m rest ih =>
      change (writeAll (p.write m) rest).written = _
      rw [ih]
      exact List.append_assoc ..

@[simp] theorem writeAll_delivered (p : Pipe message) (ms : List message) :
    (p.writeAll ms).delivered = p.delivered := by
  induction ms generalizing p with
  | nil => rfl
  | cons m rest ih => exact ih (p.write m)

@[simp] theorem lose_written (p : Pipe message) (i : Nat) :
    (p.lose i).written = p.written := rfl

@[simp] theorem lose_delivered (p : Pipe message) (i : Nat) :
    (p.lose i).delivered = p.delivered := rfl

@[simp] theorem deliver_written (p : Pipe message) :
    p.deliver.written = p.written := rfl

end Pipe

end Foundation
end FarmNetworking
