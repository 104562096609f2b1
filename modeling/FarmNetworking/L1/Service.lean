import FarmNetworking.L1.Node
import FarmNetworking.Socket.Rings

/-!
# Serving what was requested

Here the whole way is put together, from the constructor of the packet handlers
and the configuration up to the front ends.  The configured limit keeps all frames
short enough, so that none of them is refused.  When the requests stop, the thread
and the handlers serve every trigger that the flush loop has not gone for.
-/

namespace FarmNetworking
namespace L1

open Foundation Runs
open Structs Socket EthernetUtils PFringHandler

/-!
## What the flush loop takes
-/

namespace Sender

/-- The trigger that the flush loop deletes next even if the flag stays down. -/
def State.condemned (s : State) : List Trigger :=
  match s.pc with
  | .flushPop => s.multicastMRPQueue.take 1
  | .delete hdr => [hdr]
  | .fill | .flushTest | .blockingPop | .append _ | .test | .send => []

section Steps

variable {host : Host} {sums : ChecksumFunctions} {t : Templates} {s s' : State}

theorem thread_condemned (hmove : ThreadMove host sums t s s') (h : Alone t s) :
    s'.deleted ++ s'.condemned = s.deleted ++ s.condemned ∧
      s'.pushed = s.pushed := by
  unfold State.condemned
  cases hmove with
  | flush hpc hflag =>
      rw [h.flushBurst] at hflag
      cases hflag
  | flushPop hdr rest hpc hqueue =>
      rw [hpc, hqueue]
      exact ⟨rfl, rfl⟩
  | drained hpc hqueue =>
      rw [hpc, hqueue]
      exact ⟨rfl, rfl⟩
  | delete hdr hpc =>
      rw [hpc]
      exact ⟨List.append_nil _, rfl⟩
  | send hpc =>
      rw [sendMRP_eq h.bounded.left, hpc]
      exact ⟨rfl, rfl⟩
  | wait hpc hqueue => exact ⟨rfl, rfl⟩
  | more hpc hne hqueue => rw [hpc]; exact ⟨rfl, rfl⟩
  | enough hpc hstop => rw [hpc]; exact ⟨rfl, rfl⟩
  | noFlush hpc hflag => rw [hpc]; exact ⟨rfl, rfl⟩
  | pop hdr rest hpc hqueue => rw [hpc]; exact ⟨rfl, rfl⟩
  | append hdr hpc => rw [hpc]; exact ⟨rfl, rfl⟩
  | ready hpc hbatch => rw [hpc]; exact ⟨rfl, rfl⟩
  | sleep hpc hnone => rw [hpc]; exact ⟨rfl, rfl⟩

end Steps

theorem Drained.condemned_eq_nil {s : State} (h : Drained s) :
    s.condemned = [] := by
  rw [State.condemned, h.pc]

end Sender

namespace Transmission

section Runs

variable {n : Nat} (host : Host) (sums : ChecksumFunctions) {t : Templates}
  (ring : Fin n -> Bool)

theorem run_condemned {s : State n} (h : Sender.Alone t s.sender)
    {more : List (Action n)} (hown : forall a, a ∈ more -> Own a) :
    let s' := run (step host sums t ring) s more
    s'.sender.deleted ++ s'.sender.condemned =
        s.sender.deleted ++ s.sender.condemned ∧
      s'.sender.pushed = s.sender.pushed := by
  have hmeet : StepsMeet (fun _ a => Own a) (step host sums t ring) s more :=
    stepsMeet_of_mem (fun a ha _ => hown a ha) s
  have hrun := run_invariant_of_stepsMeet
    (I := fun s' => Sender.Alone t s'.sender ∧
      s'.sender.deleted ++ s'.sender.condemned =
        s.sender.deleted ++ s.sender.condemned ∧
      s'.sender.pushed = s.sender.pushed)
    (fun s' a hs' ha => by
      rcases own_sender host sums t ring s' ha with hsame | hstep
      · rw [hsame]
        exact hs'
      · have hmove := Sender.thread_move host sums t s'.sender
        rcases Sender.thread_condemned hmove hs'.left with ⟨hdeleted, hpushed⟩
        rw [hstep]
        exact ⟨Sender.thread_alone hmove hs'.left,
          hdeleted.trans hs'.right.left, hpushed.trans hs'.right.right⟩)
    ⟨h, rfl, rfl⟩ hmeet
  exact hrun.right

end Runs

end Transmission

/-!
## The whole node
-/

namespace Node

open Transmission (Own Complete Settled distance endpoints Brings)

section Runs

variable {n : Nat} {host : Host} {sums : ChecksumFunctions} {t : Templates}
  {ring : Fin n -> Bool} {block : FreshBlock} {s s' : Transmission.State n}

theorem Hides.complete (h : Hides s s') (hcomplete : Complete s) : Complete s' := by
  refine ⟨?_, ?_, ?_, ?_⟩
  · rw [h.sender]
    exact hcomplete.drained
  · rw [h.unsent]
    exact hcomplete.settled.unsent
  · rw [h.net.queue, hcomplete.settled.queue, List.filter_nil]
  · intro i
    rw [h.net.handlers, hcomplete.settled.handlers i]
    rfl

theorem run_transmission (host : Host) (sums : ChecksumFunctions) (t : Templates)
    (ring : Fin n -> Bool) (block : FreshBlock) (s : Transmission.State n)
    (as : List (Action n)) (more : List (Transmission.Action n)) :
    run (step host sums t ring block) s (as ++ more.map Action.transmission) =
      run (Transmission.step host sums t ring)
        (run (step host sums t ring block) s as) more := by
  rw [run_append]
  generalize run (step host sums t ring block) s as = s'
  induction more generalizing s' with
  | nil => rfl
  | cons a more ih => exact ih (Transmission.step host sums t ring s' a)

/-- With the flag down, a node gets along without others unless it is starved. -/
theorem run_alone (as : List (Action n))
    (hflag : (run (step host sums t ring block) (Transmission.State.initial n)
      as).sender.flushBurst = false)
    (hfree : ¬ Sender.Starved (run (step host sums t ring block)
      (Transmission.State.initial n) as).sender) :
    Transmission.Alone t
      (run (step host sums t ring block) (Transmission.State.initial n) as) := by
  rcases run_hides host sums t ring block as with ⟨bs, _, hhides⟩
  have hcalling := Transmission.run_calling host sums t ring bs
  rw [← hhides.sender] at hflag
  have halone := Transmission.run_sender_alone host sums t ring bs hflag
  rw [hhides.sender] at halone
  refine ⟨halone, hfree, ?_⟩
  intro hunsent
  rw [← hhides.unsent] at hunsent
  rw [← hhides.sender]
  exact hcalling hunsent

end Runs

def Reached {n : Nat} (host : Host) (cfg : Config) (sums : ChecksumFunctions)
    (s : Transmission.State n) (x : Sender.Trigger) : Prop :=
  exists mrp, mrp ∈ s.sender.mrps ∧ x ∈ mrp.triggers ∧
    forall e, e ∈ endpoints host cfg ->
      exists h, h ∈ s.net.handed ∧ Brings host cfg sums mrp.triggers e h.packet

def CanServe {n : Nat} (host : Host) (cfg : Config) (sums : ChecksumFunctions)
    (t : Templates) (ring : Fin n -> Bool) (s : Transmission.State n) : Prop :=
  exists more : List (Transmission.Action n),
    more.length ≤ distance t s ∧ (forall a, a ∈ more -> Own a) ∧
      forall x, x ∈ s.sender.pushed ->
        x ∉ s.sender.deleted ++ s.sender.condemned ->
          Reached host cfg sums (run (Transmission.step host sums t ring) s more) x

/--
After a start with at least one ring and with a limit that a frame can hold, from
every state with the flush flag down in which the thread is not starved, the thread
and the handlers bring every spared trigger to all configured endpoints.
-/
theorem spared_triggers_served {host : Host} {cfg : Config}
    {sums : ChecksumFunctions} {t : Templates} {deviceName : String}
    {rings : List (Option Pfring)} {queueRings : List QueueRing} (block : FreshBlock)
    (hopen : networkHandler deviceName rings = .ok queueRings) (hrings : rings ≠ [])
    (hcfg : cfg.WellFormed host) (hsums : sums.Documented)
    (hinit : Initialize host cfg Templates.initial = .ok t)
    (hmax : cfg.maxTriggersPerMRP ≠ 0)
    (hlimit : 54 + 12 * cfg.maxTriggersPerMRP.toNat ≤ 1500)
    (as : List (Action queueRings.length))
    (hflag : (run (step host sums t (ringsOf queueRings) block)
      (Transmission.State.initial _) as).sender.flushBurst = false)
    (hfree : ¬ Sender.Starved (run (step host sums t (ringsOf queueRings) block)
      (Transmission.State.initial _) as).sender) :
    CanServe host cfg sums t (ringsOf queueRings)
      (run (step host sums t (ringsOf queueRings) block)
        (Transmission.State.initial _) as) := by
  have hn : 0 < queueRings.length := by
    rw [networkHandler_length hopen]
    exact List.length_pos_of_ne_nil hrings
  have hring := networkHandler_rings hopen
  rw [← Transmission.initialize_limit hcfg hinit] at hmax hlimit
  have halone := run_alone as hflag hfree
  rcases Transmission.exists_complete host sums (ringsOf queueRings) hmax hn halone
    with ⟨more, hlength, hown, hcomplete⟩
  refine ⟨more, hlength, hown, ?_⟩
  intro x hx hspared
  rcases Transmission.run_condemned host sums (ringsOf queueRings) halone.sender hown
    with ⟨hdeleted, hpushed⟩
  rw [hcomplete.drained.condemned_eq_nil, List.append_nil] at hdeleted
  rw [← hdeleted] at hspared
  rw [← hpushed] at hx
  -- the continued run is one of the node, and shows a run of L1 alone
  rcases run_hides host sums t (ringsOf queueRings) block
    (as ++ more.map .transmission) with ⟨bs, _, hhides⟩
  rw [run_transmission] at hhides
  have hserved := run_served hcfg hsums hinit hring hlimit bs
  have hshown := hhides.complete hcomplete
  rw [← hhides.sender] at hx hspared
  rcases hserved.everybody hshown.settled hshown.drained x hx hspared with
    ⟨mrp, hmrp, hin, hall⟩
  rw [hhides.sender] at hmrp
  refine ⟨mrp, hmrp, hin, ?_⟩
  intro e he
  rcases hall e he with ⟨h, hhanded, hbrings⟩
  rw [hhides.net.handed] at hhanded
  exact ⟨h, (List.mem_filter.mp hhanded).left, hbrings⟩

def oneQueue : List QueueRing :=
  [{ ring := some { enable := 0 }, deviceName := queDeviceName "dna0" 0 }]

theorem spared_triggers_served_one :
    CanServe loopbackHost loopbackConfig ChecksumFunctions.reference
      Transmission.initializedTemplates (ringsOf oneQueue)
      (run (step loopbackHost ChecksumFunctions.reference
          Transmission.initializedTemplates (ringsOf oneQueue)
          { address := 0, content := Vector.replicate 64 0 })
        (Transmission.State.initial 1)
        (.thread :: (Sender.requestAndPush (requestedEvent 1, false)).map
          (fun a => .transmission (.sender a)))) := by
  have hopen : networkHandler "dna0" [some { enable := 0 }] = .ok oneQueue := rfl
  exact spared_triggers_served _ hopen (List.cons_ne_nil _ _)
    loopbackConfig_wellFormed ChecksumFunctions.reference_documented rfl
    (by decide) (by decide) _ (by decide) (by decide)

end Node
end L1
end FarmNetworking
