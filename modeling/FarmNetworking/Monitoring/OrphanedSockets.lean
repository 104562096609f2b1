import FarmNetworking.Monitoring.Registry

/-!
# Sockets without a pointer

A reconnect creates all sockets of a role because one pointer is null.  It does
not look at the others, so that a socket behind one of them loses the pointer
through which it could be closed.
-/

namespace FarmNetworking
namespace Monitoring
namespace IPCHandler

open Foundation Runs
open Socket ZMQHandler

def AllDesignated (s : State) : Prop :=
  forall socket, socket ∈ s.zmq.liveSockets ->
    ∃! slot, s.pointer slot = some socket

def OverwritesNoSocket (s : State) (op : Operation) : Prop :=
  forall g, s.crashed = false -> op.guard = some g ->
    forall slot, slot ∈ g.assigned s -> forall socket,
      s.pointer slot = some socket -> socket ∉ s.zmq.liveSockets

theorem allDesignated_iff {s : State} (hwell : (view s).WellFormed) :
    AllDesignated s <-> (view s).NoOrphan :=
  (Table.noOrphan_iff hwell).symm

theorem assigned_nodup {op : Operation} {g : Guard} (hg : op.guard = some g)
    (s : State) : (g.assigned s).Nodup := by
  unfold Guard.assigned
  split
  · exact (guard_nodup hg).sublist (assignedSlots_sublist _ g.channels)
  · exact List.nodup_nil

theorem perform_noOrphan {op : Operation} {g : Guard} {s : State}
    (hg : op.guard = some g) (hcrashed : s.crashed = false)
    (hwell : (view s).WellFormed) :
    (view (perform s op)).NoOrphan <-> (view s).NoOrphan ∧
      forall slot, slot ∈ g.assigned s -> forall socket,
        s.pointer slot = some socket -> socket ∉ s.zmq.liveSockets := by
  rcases perform_view hg hcrashed with ⟨t, hassigns, hview⟩
  have hrelease : (view (perform s op)).NoOrphan <-> t.NoOrphan := by
    rcases hview with heq | heq <;> rw [heq]
    exact forall_congr' fun socket => not_congr Table.release_orphan_iff
  exact hrelease.trans (hassigns.noOrphan_iff hwell (assigned_nodup hg s))

theorem shutDown_noOrphan (s : State) :
    (view (shutDown s)).NoOrphan <-> (view s).NoOrphan :=
  forall_congr' fun socket =>
    not_congr (closeAll_orphan shutDownOrder s socket)

theorem step_allDesignated {s : State} (op : Operation)
    (hwell : (view s).WellFormed) (h : AllDesignated s) :
    AllDesignated (step s op) <-> OverwritesNoSocket s op := by
  cases hcrashed : s.crashed with
  | true =>
      rw [step_of_crashed hcrashed]
      refine iff_of_true h ?_
      intro g halive
      rw [hcrashed] at halive
      cases halive
  | false =>
      rw [allDesignated_iff (step_wellFormed s op hwell),
        step_of_not_crashed hcrashed]
      rw [allDesignated_iff hwell] at h
      cases hg : op.guard with
      | none =>
          have hop := guard_eq_none hg
          subst hop
          exact iff_of_true ((shutDown_noOrphan s).mpr h) (fun g _ hguard => by
            cases hguard)
      | some g =>
          rw [perform_noOrphan hg hcrashed hwell, and_iff_right h]
          constructor
          · intro hfree g' _ hg'
            rw [hg] at hg'
            cases hg'
            exact hfree
          · intro hfree
            exact hfree g hcrashed hg

theorem initial_allDesignated : AllDesignated State.initial :=
  nofun

theorem sockets_designated_iff (ops : List Operation) :
    Along AllDesignated step State.initial ops <->
      StepsMeet OverwritesNoSocket step State.initial ops :=
  along_iff_stepsMeet (I := fun s => (view s).WellFormed) step_wellFormed
    (fun _ op hwell h => step_allDesignated op hwell h) initial_wellFormed
    initial_allDesignated ops

/--
The first connect fails at its second socket.  The next operation connects again
and stores a second state sender, and the first one stays open for good.
-/
theorem first_stateSender_orphaned :
    ¬ Along AllDesignated step State.initial
      [.updateState OFF { Calls.succeed with
          generate := fun slot =>
            if slot = .statisticsSender then .constructorThrows 24 else .ok }
          .queued,
        .sendErrorMessage [69] Calls.succeed none .queued] := by
  intro halong
  have hlive : 0 ∈ (run step State.initial
      [.updateState OFF { Calls.succeed with
          generate := fun slot =>
            if slot = .statisticsSender then .constructorThrows 24 else .ok }
          .queued,
        .sendErrorMessage [69] Calls.succeed none .queued]).zmq.liveSockets := by
    decide
  rcases along_run halong 0 hlive with ⟨slot, hslot, _⟩
  cases slot <;> exact absurd hslot (by decide)

end IPCHandler
end Monitoring
end FarmNetworking
