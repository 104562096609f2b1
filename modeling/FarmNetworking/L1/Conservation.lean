import FarmNetworking.L1.Sender

/-!
# What becomes of a trigger

The sender is a conveyor: triggers enter with a push, wait in the shared queue,
are held by the thread, and leave either deleted by the flush loop or placed in
an MRP.  Conservation is then a fact about conveyors.
-/

namespace FarmNetworking
namespace L1
namespace Sender

open Foundation Runs
open Structs

def Pc.popped : Pc -> List Trigger
  | .delete hdr => [hdr]
  | .append hdr => [hdr]
  | .fill | .flushTest | .flushPop | .blockingPop | .test | .send => []

def State.sent (s : State) : List Trigger :=
  s.mrps.flatMap MRP.triggers

inductive Exit where
  | deleted
  | sent
  deriving DecidableEq

instance : Fintype Exit where
  elems := {.deleted, .sent}
  complete := by
    intro e
    cases e <;> simp

def view (s : State) : Conveyor Trigger Exit where
  entered := s.pushed
  waiting := s.multicastMRPQueue
  held := (s.pc.popped ++ s.multicastRequests : List Trigger)
  left
    | .deleted => s.deleted
    | .sent => s.sent

section Steps

variable {host : Host} {sums : ChecksumFunctions} {t : Templates} {s s' : State}

theorem view_same (hpushed : s'.pushed = s.pushed)
    (hqueue : s'.multicastMRPQueue = s.multicastMRPQueue)
    (hheld : s'.pc.popped ++ s'.multicastRequests =
      s.pc.popped ++ s.multicastRequests)
    (hdeleted : s'.deleted = s.deleted) (hmrps : s'.mrps = s.mrps) :
    Conveyor.Steps (view s) (view s') := by
  have hview : view s' = view s := by
    simp only [view, State.sent, hpushed, hqueue, hheld, hdeleted, hmrps]
  rw [hview]
  exact Relation.ReflTransGen.refl

theorem view_pop {hdr : Trigger} {rest : List Trigger} {pc : Pc}
    (hpc : s.pc.popped = []) (hnext : pc.popped = [hdr])
    (hqueue : s.multicastMRPQueue = hdr :: rest) :
    Conveyor.Steps (view s)
      (view { s with pc := pc, multicastMRPQueue := rest }) := by
  refine Relation.ReflTransGen.single
    (Conveyor.Step.take {hdr} rfl ?_ ?_ rfl)
  · change (s.multicastMRPQueue : Multiset Trigger) = _
    rw [hqueue]
    rfl
  · change ((pc.popped ++ s.multicastRequests : List Trigger) : Multiset Trigger) =
      ((s.pc.popped ++ s.multicastRequests : List Trigger) : Multiset Trigger) + {hdr}
    rw [hpc, hnext, add_comm]
    rfl

theorem environment_view (hmove : EnvironmentMove s s') :
    Conveyor.Steps (view s) (view s') := by
  cases hmove with
  | idle => exact Relation.ReflTransGen.refl
  | setFlushBurst b => exact view_same rfl rfl rfl rfl rfl
  | request producer hdr hfree hflag => exact view_same rfl rfl rfl rfl rfl
  | push producer hdr hready =>
      refine Relation.ReflTransGen.single
        (Conveyor.Step.enter {{ serial := s.pushed.length, hdr := hdr }}
          ?_ ?_ rfl rfl)
      · exact (Multiset.coe_add _ _).symm
      · exact (Multiset.coe_add _ _).symm

theorem thread_view (hmove : ThreadMove host sums t s s')
    (hbound : s.multicastRequests.length ≤ t.maxTriggersPerL1MRP.toNat) :
    Conveyor.Steps (view s) (view s') := by
  cases hmove with
  | more hpc hne hqueue => exact view_same rfl rfl (by rw [hpc]; rfl) rfl rfl
  | enough hpc hstop => exact view_same rfl rfl (by rw [hpc]; rfl) rfl rfl
  | flush hpc hflag => exact view_same rfl rfl (by rw [hpc]; rfl) rfl rfl
  | noFlush hpc hflag => exact view_same rfl rfl (by rw [hpc]; rfl) rfl rfl
  | flushPop hdr rest hpc hqueue => exact view_pop (by rw [hpc]; rfl) rfl hqueue
  | drained hpc hqueue => exact view_same rfl rfl (by rw [hpc]; rfl) rfl rfl
  | delete hdr hpc =>
      refine Relation.ReflTransGen.single
        (Conveyor.Step.leave Exit.deleted {hdr} rfl rfl ?_ ?_ ?_)
      · change ((s.pc.popped ++ s.multicastRequests : List Trigger) :
          Multiset Trigger) = _
        rw [hpc]
        rfl
      · exact (Multiset.coe_add _ _).symm
      · intro e he
        cases e with
        | deleted => exact absurd rfl he
        | sent => rfl
  | wait hpc hqueue => exact Relation.ReflTransGen.refl
  | pop hdr rest hpc hqueue => exact view_pop (by rw [hpc]; rfl) rfl hqueue
  | append hdr hpc =>
      have hview : view
          { s with
            pc := .fill
            multicastRequests := s.multicastRequests ++ [hdr] } = view s := by
        have hheld : ((s.multicastRequests ++ [hdr] : List Trigger) :
            Multiset Trigger) = ([hdr] ++ s.multicastRequests : List Trigger) :=
          Multiset.coe_eq_coe.mpr List.perm_append_comm
        simp only [view, State.sent, hpc, Pc.popped, List.nil_append, hheld]
      rw [hview]
      exact Relation.ReflTransGen.refl
  | ready hpc hpos => exact view_same rfl rfl (by rw [hpc]; rfl) rfl rfl
  | sleep hpc hnone => exact view_same rfl rfl (by rw [hpc]; rfl) rfl rfl
  | send hpc =>
      rw [sendMRP_eq hbound]
      refine Relation.ReflTransGen.single
        (Conveyor.Step.leave Exit.sent s.multicastRequests rfl rfl ?_ ?_ ?_)
      · change ((s.pc.popped ++ s.multicastRequests : List Trigger) :
          Multiset Trigger) = _
        rw [hpc]
        exact (add_zero _).symm
      · change ((List.flatMap MRP.triggers (s.mrps ++ [_]) : List Trigger) :
          Multiset Trigger) = _
        rw [List.flatMap_append, ← Multiset.coe_add]
        congr 1
        simp
      · intro e he
        cases e with
        | deleted => rfl
        | sent => exact absurd rfl he

end Steps

/-!
## What is recorded

Serial numbers follow the order of the pushes, the counters follow the MRPs, and
the frames of one MRP differ in their headers only.
-/

structure SameForAll (t : Templates) (mrp : MRP) : Prop where
  frames : mrp.frames.length =
    (t.l1UnicastRequestHdrs ++ t.l1MulticastRequestHdrs).length
  body : exists body, forall frame, frame ∈ mrp.frames -> frame.drop 54 = body
  triggers : 54 + 12 * mrp.triggers.length < 4294967296 ->
    forall frame, frame ∈ mrp.frames ->
      frame.drop 54 = blocks Trigger.hdr mrp.triggers

theorem asyncSendMRP_sameForAll (host : Host) (sums : ChecksumFunctions)
    (t : Templates) (triggers : List Trigger) :
    SameForAll t
      { triggers := (asyncSendMRP host sums t Trigger.hdr triggers).placed
        frames := (asyncSendMRP host sums t Trigger.hdr triggers).frames } := by
  have hdrop : forall (hdr : MRPFrameHDR) (body : List UInt8),
      (hdr.bytes ++ body).drop 54 = body := by
    intro hdr body
    rw [ByteString.drop_append_right (by rw [MRPFrameHDR.bytes_length]),
      MRPFrameHDR.bytes_length, Nat.sub_self, List.drop_zero]
  rw [asyncSendMRP_eq]
  constructor
  · exact List.length_map _
  · refine ⟨payload host (filled host t Trigger.hdr triggers).buff
      (54 + 12 * batchSize t triggers), ?_⟩
    intro frame hframe
    rcases List.mem_map.mp hframe with ⟨template, _htemplate, rfl⟩
    rw [buildFrame_eq _ _ _ (by lia), hdrop]
  · intro hsize frame hframe
    rcases List.mem_map.mp hframe with ⟨template, _htemplate, rfl⟩
    change 54 + 12 * (batch t triggers).length < _ at hsize
    rw [batch_length] at hsize
    rw [buildFrame_eq _ _ _ (by lia), hdrop, payload_filled hsize]

structure Recorded (t : Templates) (s : State) : Prop where
  serials : s.pushed.map Trigger.serial = List.range s.pushed.length
  triggersSent : s.l1TriggersSent.toNat = s.sent.length % 2 ^ 64
  mrpsSent : s.l1MRPsSent.toNat = s.mrps.length % 2 ^ 64
  mrps : forall mrp, mrp ∈ s.mrps -> SameForAll t mrp

theorem initial_recorded (t : Templates) : Recorded t State.initial := by
  refine ⟨rfl, rfl, rfl, ?_⟩
  intro mrp hmrp
  cases hmrp

theorem push_recorded {t : Templates} {s : State} (h : Recorded t s)
    (producers : Nat -> Option TriggerRawHDR) (queue : List Trigger)
    (hdr : TriggerRawHDR) :
    Recorded t { s with
      producers := producers
      multicastMRPQueue := queue
      pushed := s.pushed ++ [{ serial := s.pushed.length, hdr := hdr }] } := by
  refine ⟨?_, h.triggersSent, h.mrpsSent, h.mrps⟩
  change (s.pushed ++ [_]).map Trigger.serial =
    List.range (s.pushed ++ [_]).length
  rw [List.map_append, h.serials, List.length_append]
  exact List.range_succ.symm

theorem sendMRP_recorded {host : Host} {sums : ChecksumFunctions}
    {t : Templates} {s : State} (h : Recorded t s)
    (hbound : s.multicastRequests.length ≤ t.maxTriggersPerL1MRP.toNat) :
    Recorded t (sendMRP host sums t s) := by
  have hmax : t.maxTriggersPerL1MRP.toNat < 4294967296 :=
    t.maxTriggersPerL1MRP.toNat_lt
  have hsent : (sendMRP host sums t s).sent =
      s.sent ++ s.multicastRequests.reverse := by
    rw [sendMRP_eq hbound]
    simp [State.sent]
  refine ⟨h.serials, ?_, ?_, ?_⟩
  · rw [hsent, sendMRP_eq hbound]
    change (s.l1TriggersSent +
      (UInt32.ofNat s.multicastRequests.length).toUInt64).toNat = _
    rw [UInt64.toNat_add, UInt32.toNat_toUInt64, UInt32.toNat_ofNat',
      h.triggersSent, List.length_append, List.length_reverse,
      Nat.mod_eq_of_lt (show s.multicastRequests.length < 2 ^ 32 by lia),
      Nat.mod_add_mod]
  · rw [sendMRP_eq hbound]
    change (s.l1MRPsSent + 1).toNat = (s.mrps ++ [_]).length % 2 ^ 64
    rw [UInt64.toNat_add, h.mrpsSent, List.length_append]
    exact Nat.mod_add_mod _ _ _
  · intro mrp hmrp
    rcases List.mem_append.mp hmrp with hold | hnew
    · exact h.mrps mrp hold
    · rw [List.mem_singleton.mp hnew]
      exact asyncSendMRP_sameForAll host sums t s.multicastRequests

theorem environment_recorded {t : Templates} {s s' : State}
    (hmove : EnvironmentMove s s') (h : Recorded t s) : Recorded t s' := by
  cases hmove with
  | idle => exact h
  | setFlushBurst b =>
      exact ⟨h.serials, h.triggersSent, h.mrpsSent, h.mrps⟩
  | request producer hdr hfree hflag =>
      exact ⟨h.serials, h.triggersSent, h.mrpsSent, h.mrps⟩
  | push producer hdr hready => exact push_recorded h _ _ hdr

theorem thread_recorded {host : Host} {sums : ChecksumFunctions}
    {t : Templates} {s s' : State} (hmove : ThreadMove host sums t s s')
    (hbound : s.multicastRequests.length ≤ t.maxTriggersPerL1MRP.toNat)
    (h : Recorded t s) : Recorded t s' := by
  cases hmove with
  | send hpc => exact sendMRP_recorded h hbound
  | _ => exact ⟨h.serials, h.triggersSent, h.mrpsSent, h.mrps⟩

/-!
## Runs
-/

structure Inv (t : Templates) (s : State) : Prop where
  bounded : BatchBounded t.maxTriggersPerL1MRP.toNat s
  recorded : Recorded t s

theorem initial_inv (t : Templates) : Inv t State.initial :=
  ⟨⟨Nat.zero_le _, nofun⟩, initial_recorded t⟩

section Runs

variable (host : Host) (sums : ChecksumFunctions) (t : Templates)

theorem step_inv (s : State) (a : Action) (h : Inv t s) :
    Inv t (step host sums t s a) :=
  step_of_moves (P := fun _ s' => Inv t s') host sums t s a
    (fun _ hmove => ⟨environment_batchBounded hmove h.bounded,
      environment_recorded hmove h.recorded⟩)
    (fun _ hmove => ⟨thread_batchBounded hmove h.bounded,
      thread_recorded hmove h.bounded.left h.recorded⟩)

theorem run_inv (as : List Action) :
    Inv t (run (step host sums t) State.initial as) :=
  run_invariant (step_inv host sums t) (initial_inv t) as

theorem run_balanced (as : List Action) :
    Conveyor.Balanced (view (run (step host sums t) State.initial as)) :=
  Conveyor.run_balanced (step_inv host sums t)
    (fun s a h =>
      step_of_moves (P := fun s s' => Conveyor.Steps (view s) (view s'))
        host sums t s a (fun _ hmove => environment_view hmove)
        (fun _ hmove => thread_view hmove h.bounded.left))
    (initial_inv t) rfl as

end Runs

theorem Recorded.pushed_nodup {t : Templates} {s : State} (h : Recorded t s) :
    s.pushed.Nodup := by
  apply List.Nodup.of_map Trigger.serial
  rw [h.serials]
  exact List.nodup_range

theorem Recorded.serial_lt {t : Templates} {s : State} (h : Recorded t s)
    {x : Trigger} (hx : x ∈ s.pushed) : x.serial < s.pushed.length := by
  have hserial : x.serial ∈ s.pushed.map Trigger.serial :=
    List.mem_map_of_mem hx
  rw [h.serials] at hserial
  exact List.mem_range.mp hserial

theorem existsUnique_index {mrps : List MRP}
    (hnodup : (mrps.flatMap MRP.triggers).Nodup) {x : Trigger}
    (hx : x ∈ mrps.flatMap MRP.triggers) :
    ∃! i : Nat, exists mrp : MRP, mrps[i]? = some mrp ∧ x ∈ mrp.triggers := by
  rcases List.mem_flatMap.mp hx with ⟨mrp, hmrp, hxmrp⟩
  rcases List.mem_iff_getElem?.mp hmrp with ⟨i, hi⟩
  refine ⟨i, ⟨mrp, hi, hxmrp⟩, ?_⟩
  rintro j ⟨other, hj, hxother⟩
  have hdisjoint := (List.nodup_flatMap.mp hnodup).right
  rw [List.pairwise_iff_getElem] at hdisjoint
  rcases List.getElem?_eq_some_iff.mp hi with ⟨hilt, hieq⟩
  rcases List.getElem?_eq_some_iff.mp hj with ⟨hjlt, hjeq⟩
  rcases Nat.lt_trichotomy i j with hlt | heq | hgt
  · have hd := hdisjoint i j hilt hjlt hlt
    rw [Function.onFun, hieq, hjeq] at hd
    exact absurd hxother (hd hxmrp)
  · exact heq.symm
  · have hd := hdisjoint j i hjlt hilt hgt
    rw [Function.onFun, hieq, hjeq] at hd
    exact absurd hxmrp (hd hxother)

structure Accounted (host : Host) (sums : ChecksumFunctions) (t : Templates)
    (s : State) : Prop where
  conserved : (s.pushed : Multiset Trigger) =
    s.multicastMRPQueue + (s.pc.popped ++ s.multicastRequests : List Trigger) +
      s.deleted + s.sent
  pushedOnce : s.pushed.Nodup
  sentOnce : forall x, x ∈ s.sent ->
    ∃! i : Nat, exists mrp : MRP, s.mrps[i]? = some mrp ∧ x ∈ mrp.triggers
  sentOnly : forall x, x ∈ s.sent ->
    x ∉ s.multicastMRPQueue ∧ x ∉ s.pc.popped ++ s.multicastRequests ∧
      x ∉ s.deleted
  sameForAll : forall mrp, mrp ∈ s.mrps ->
    mrp.triggers.Nodup ∧ SameForAll t mrp
  bounded : s.multicastRequests.length ≤ t.maxTriggersPerL1MRP.toNat
  emptied : s.pc = .send ->
    (step host sums t s .thread).multicastRequests = []
  triggersSent : s.l1TriggersSent.toNat = s.sent.length % 2 ^ 64
  mrpsSent : s.l1MRPsSent.toNat = s.mrps.length % 2 ^ 64

/-- No interleaving loses, duplicates or miscounts a trigger. -/
theorem sender_accounted (host : Host) (sums : ChecksumFunctions)
    (t : Templates) (as : List Action) :
    Accounted host sums t (run (step host sums t) State.initial as) := by
  have hinv := run_inv host sums t as
  have hbalanced := run_balanced host sums t as
  generalize run (step host sums t) State.initial as = s at hinv hbalanced
  have hpushed := hinv.recorded.pushed_nodup
  have hsent : s.sent.Nodup := hbalanced.left_nodup hpushed Exit.sent
  have hconserved : (s.pushed : Multiset Trigger) =
      s.multicastMRPQueue +
        (s.pc.popped ++ s.multicastRequests : List Trigger) +
        s.deleted + s.sent := by
    have hexits : ∑ e, (view s).left e = s.deleted + s.sent := by
      change ∑ e ∈ {Exit.deleted, Exit.sent}, (view s).left e = _
      rw [Finset.sum_pair (by decide)]
      rfl
    rw [add_assoc, ← hexits]
    exact hbalanced
  refine ⟨hconserved, hpushed, ?_, ?_, ?_, hinv.bounded.left, ?_,
    hinv.recorded.triggersSent, hinv.recorded.mrpsSent⟩
  · intro x hx
    exact existsUnique_index hsent hx
  · intro x hx
    rcases hbalanced.not_waiting_or_held hpushed (e := Exit.sent) hx with
      ⟨hqueue, hheld⟩
    refine ⟨hqueue, hheld, ?_⟩
    intro hdeleted
    have hnodup : (s.pushed : Multiset Trigger).Nodup := hpushed
    rw [hconserved] at hnodup
    exact Multiset.disjoint_left.mp (Multiset.nodup_add.mp hnodup).right.right
      (Multiset.mem_add.mpr (Or.inr hdeleted)) hx
  · intro mrp hmrp
    exact ⟨(List.nodup_flatMap.mp hsent).left mrp hmrp,
      hinv.recorded.mrps mrp hmrp⟩
  · intro hpc
    have hstep : step host sums t s .thread = sendMRP host sums t s := by
      rw [step, thread, hpc]
    rw [hstep, sendMRP_eq hinv.bounded.left]

end Sender
end L1
end FarmNetworking
