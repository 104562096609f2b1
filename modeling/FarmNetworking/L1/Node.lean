import FarmNetworking.L1.Completion
import FarmNetworking.Socket.ARP
import FarmNetworking.Socket.SendQueue

/-!
# The sending side of a node

The thread of the PF_RING handler shares the queue of frames with L1.  It puts one
and the same request into it, again and again, and the packet handlers send it with
the other frames.

Its frame is the only one that may not be deleted.  Without the frames of that kind,
the queue, the handlers and the driver go through a run of L1 alone.  So what is
known of L1 alone is known of the node.
-/

namespace FarmNetworking
namespace L1
namespace Node

open Foundation Runs
open Structs Socket EthernetUtils PFringHandler
open Transmission (Served initialize_limit)

inductive Action (n : Nat) where
  | transmission (a : Transmission.Action n)
  | thread

section System

variable {n : Nat} (host : Host) (sums : ChecksumFunctions) (t : Templates)
  (ring : Fin n -> Bool) (block : FreshBlock)

/-- The frame that the thread generates in front of its loop. -/
def arp : DataContainer :=
  generateGratuitousARPv4 block host.myMac host.myIP

def step (s : Transmission.State n) : Action n -> Transmission.State n
  | .transmission a => Transmission.step host sums t ring s a
  | .thread => { s with net := thread (arp host block) s.net }

end System

/-!
## Looking away from the requests
-/

def Owned (data : DataContainer) : Prop :=
  data.ownerMayFreeData = true

instance : DecidablePred Owned :=
  fun data => inferInstanceAs (Decidable (data.ownerMayFreeData = true))

def Phase.visible : Phase -> Phase
  | .popped data => if Owned data then .popped data else .idle
  | .sending data pkt => if Owned data then .sending data pkt else .idle
  | .sent data bytes => if Owned data then .sent data bytes else .idle
  | .idle => .idle

section Hiding

variable {n : Nat}

/-- The second has what the first has of the frames that may be deleted. -/
structure Shows (u v : PFringHandler.State n) : Prop where
  queue : v.asyncSendData = u.asyncSendData.filter (fun c => Owned c)
  handlers : forall i, v.handlers i = Phase.visible (u.handlers i)
  enqueued : v.enqueued = u.enqueued.filter (fun c => Owned c)
  handed : v.handed = u.handed.filter (fun x => Owned x.data)
  rejected : v.rejected = u.rejected.filter (fun c => Owned c)
  freed : v.freed = u.freed

structure Hides (s t : Transmission.State n) : Prop where
  sender : t.sender = s.sender
  unsent : t.unsent = s.unsent
  nextAddress : t.nextAddress = s.nextAddress
  net : Shows s.net t.net

variable {ring : Fin n -> Bool} {u v : PFringHandler.State n} {i : Fin n}

theorem Shows.update (h : Shows u v) (i : Fin n) {p q : Phase}
    (hp : q = Phase.visible p) (j : Fin n) :
    Function.update v.handlers i q j =
      Phase.visible (Function.update u.handlers i p j) := by
  by_cases hj : j = i
  · subst hj
    rw [Function.update_self, Function.update_self, hp]
  · rw [Function.update_of_ne hj, Function.update_of_ne hj]
    exact h.handlers j

theorem Shows.update_hidden (h : Shows u v) (i : Fin n) {p : Phase}
    (hbefore : Phase.visible (u.handlers i) = .idle)
    (hafter : Phase.visible p = .idle) (j : Fin n) :
    v.handlers j = Phase.visible (Function.update u.handlers i p j) := by
  by_cases hj : j = i
  · subst hj
    rw [Function.update_self, hafter, ← hbefore]
    exact h.handlers j
  · rw [Function.update_of_ne hj]
    exact h.handlers j

theorem filter_append_owned (items : List DataContainer) {data : DataContainer}
    (h : Owned data) :
    (items ++ [data]).filter (fun c => Owned c) =
      items.filter (fun c => Owned c) ++ [data] := by
  rw [List.filter_append, List.filter_cons_of_pos (by simpa using h), List.filter_nil]

theorem filter_append_hidden (items : List DataContainer) {data : DataContainer}
    (h : ¬ Owned data) :
    (items ++ [data]).filter (fun c => Owned c) = items.filter (fun c => Owned c) := by
  rw [List.filter_append, List.filter_cons_of_neg (by simpa using h), List.filter_nil,
    List.append_nil]

theorem asyncSendFrame_owned (h : Shows u v) {data : DataContainer}
    (hdata : Owned data) (hroom : u.asyncSendData.length < 1000) :
    Shows (asyncSendFrame u data) (asyncSendFrame v data) := by
  have hless : v.asyncSendData.length < 1000 := by
    rw [h.queue]
    exact Nat.lt_of_le_of_lt (List.length_filter_le _ _) hroom
  rw [asyncSendFrame, asyncSendFrame, if_pos hroom, if_pos hless]
  refine ⟨?_, h.handlers, ?_, h.handed, h.rejected, h.freed⟩
  · rw [filter_append_owned _ hdata, h.queue]
  · rw [filter_append_owned _ hdata, h.enqueued]

theorem thread_hidden (h : Shows u v) (data : DataContainer) :
    Shows (thread data u) v := by
  have hhidden : ¬ Owned { data with ownerMayFreeData := false } := nofun
  unfold thread asyncSendFrame
  split
  · refine ⟨?_, h.handlers, ?_, h.handed, h.rejected, h.freed⟩
    · rw [filter_append_hidden _ hhidden]
      exact h.queue
    · rw [filter_append_hidden _ hhidden]
      exact h.enqueued
  · exact h

section Handler

variable (ring) (rc : Int)

theorem idle_shows (h : Shows u v) (hu : u.handlers i = .idle) :
    Shows (doSendQueuedFrames ring u i rc) v ∨
      Shows (doSendQueuedFrames ring u i rc) (doSendQueuedFrames ring v i rc) := by
  have hv : v.handlers i = .idle := (h.handlers i).trans (by rw [hu]; rfl)
  have hvqueue := h.queue
  cases hqueue : u.asyncSendData with
  | nil =>
      left
      rw [hqueue] at hvqueue
      simp only [doSendQueuedFrames, hu, hqueue]
      exact ⟨hvqueue, h.handlers, h.enqueued, h.handed, h.rejected,
        h.freed⟩
  | cons data rest =>
      rw [hqueue] at hvqueue
      by_cases hdata : Owned data
      · right
        rw [List.filter_cons_of_pos (by simpa using hdata)] at hvqueue
        simp only [doSendQueuedFrames, hu, hqueue, hv, hvqueue]
        exact ⟨rfl, h.update i (if_pos hdata).symm, h.enqueued, h.handed, h.rejected,
          h.freed⟩
      · left
        rw [List.filter_cons_of_neg (by simpa using hdata)] at hvqueue
        simp only [doSendQueuedFrames, hu, hqueue]
        exact ⟨hvqueue, h.update_hidden i (by rw [hu]; rfl) (if_neg hdata), h.enqueued,
          h.handed, h.rejected, h.freed⟩

theorem owned_shows (h : Shows u v) {data : DataContainer}
    (hcarried : (u.handlers i).carried = some data) (hdata : Owned data) :
    Shows (doSendQueuedFrames ring u i rc) (doSendQueuedFrames ring v i rc) := by
  have hvisible := h.handlers i
  cases hu : u.handlers i with
  | idle =>
      rw [hu] at hcarried
      cases hcarried
  | popped data' =>
      rw [hu] at hcarried hvisible
      cases hcarried
      have hv : v.handlers i = .popped data := hvisible.trans (if_pos hdata)
      simp only [doSendQueuedFrames, hu, hv]
      split
      · refine ⟨h.queue, h.update i (if_pos hdata).symm, h.enqueued, h.handed, ?_,
          h.freed⟩
        rw [filter_append_owned _ hdata, h.rejected]
      · exact ⟨h.queue, h.update i (if_pos hdata).symm, h.enqueued, h.handed, h.rejected,
          h.freed⟩
  | sending data' pkt =>
      rw [hu] at hcarried hvisible
      cases hcarried
      have hv : v.handlers i = .sending data pkt := hvisible.trans (if_pos hdata)
      simp only [doSendQueuedFrames, hu, hv]
      split
      · exact h
      · refine ⟨h.queue, h.update i (if_pos hdata).symm, h.enqueued, ?_, h.rejected,
          h.freed⟩
        rw [List.filter_append, List.filter_cons_of_pos (by simpa using hdata),
          List.filter_nil, h.handed]
  | sent data' bytes =>
      rw [hu] at hcarried hvisible
      cases hcarried
      have hv : v.handlers i = .sent data bytes := hvisible.trans (if_pos hdata)
      simp only [doSendQueuedFrames, hu, hv]
      exact ⟨h.queue, h.update i rfl, h.enqueued, h.handed, h.rejected,
        by rw [h.freed]⟩

theorem request_shows (h : Shows u v) {data : DataContainer}
    (hcarried : (u.handlers i).carried = some data) (hdata : ¬ Owned data) :
    Shows (doSendQueuedFrames ring u i rc) v := by
  have hhidden : forall p : Phase, p.carried = some data -> Phase.visible p = .idle := by
    intro p hp
    cases p with
    | idle => rfl
    | popped data' =>
        cases hp
        exact if_neg hdata
    | sending data' pkt =>
        cases hp
        exact if_neg hdata
    | sent data' bytes =>
        cases hp
        exact if_neg hdata
  have hbefore := hhidden _ hcarried
  cases hu : u.handlers i with
  | idle =>
      rw [hu] at hcarried
      cases hcarried
  | popped data' =>
      rw [hu] at hcarried
      cases hcarried
      simp only [doSendQueuedFrames, hu]
      split
      · refine ⟨h.queue, h.update_hidden i hbefore (hhidden _ rfl), h.enqueued, h.handed,
          ?_, h.freed⟩
        rw [filter_append_hidden _ hdata]
        exact h.rejected
      · exact ⟨h.queue, h.update_hidden i hbefore (hhidden _ rfl), h.enqueued, h.handed,
          h.rejected, h.freed⟩
  | sending data' pkt =>
      rw [hu] at hcarried
      cases hcarried
      simp only [doSendQueuedFrames, hu]
      split
      · exact h
      · refine ⟨h.queue, h.update_hidden i hbefore (hhidden _ rfl), h.enqueued, ?_,
          h.rejected, h.freed⟩
        rw [List.filter_append, List.filter_cons_of_neg (by simpa using hdata),
          List.filter_nil, List.append_nil]
        exact h.handed
  | sent data' bytes =>
      rw [hu] at hcarried
      cases hcarried
      simp only [doSendQueuedFrames, hu]
      exact ⟨h.queue, h.update_hidden i hbefore rfl, h.enqueued, h.handed, h.rejected,
        h.freed.trans (if_neg hdata).symm⟩

/-- A handler makes the same step where its frame is seen, and none where not. -/
theorem doSendQueuedFrames_shows (h : Shows u v) (i : Fin n) :
    Shows (doSendQueuedFrames ring u i rc) v ∨
      Shows (doSendQueuedFrames ring u i rc) (doSendQueuedFrames ring v i rc) := by
  cases hcarried : (u.handlers i).carried with
  | none =>
      refine idle_shows ring rc h ?_
      cases hu : u.handlers i with
      | idle => rfl
      | _ =>
          rw [hu] at hcarried
          cases hcarried
  | some data =>
      by_cases hdata : Owned data
      · exact Or.inr (owned_shows ring rc h hcarried hdata)
      · exact Or.inl (request_shows ring rc h hcarried hdata)

end Handler

end Hiding

/-!
## Following a run of the node
-/

section Following

variable {n : Nat} {host : Host} {sums : ChecksumFunctions} {t : Templates}
  {ring : Fin n -> Bool} {block : FreshBlock} {s s' : Transmission.State n}

theorem sendFrames_hides (h : Hides s s') :
    Hides (Transmission.sendFrames host sums t s) s' ∨
      Hides (Transmission.sendFrames host sums t s)
        (Transmission.sendFrames host sums t s') := by
  unfold Transmission.sendFrames
  rw [h.unsent]
  cases s.unsent with
  | none => exact Or.inr ⟨h.sender, by rw [h.sender], h.nextAddress, h.net⟩
  | some frames =>
      cases frames with
      | nil => exact Or.inr ⟨by rw [h.sender], rfl, h.nextAddress, h.net⟩
      | cons frame rest =>
          dsimp only
          by_cases hroom : s.net.asyncSendData.length < 1000
          · have hless : s'.net.asyncSendData.length < 1000 := by
              rw [h.net.queue]
              exact Nat.lt_of_le_of_lt (List.length_filter_le _ _) hroom
            right
            rw [if_pos hroom, if_pos hless, h.nextAddress]
            exact ⟨h.sender, rfl, rfl, asyncSendFrame_owned h.net rfl hroom⟩
          · left
            rw [if_neg hroom]
            exact h

theorem step_hides (h : Hides s s') (a : Action n) :
    Hides (step host sums t ring block s a) s' ∨
      exists b, a = .transmission b ∧ Hides (step host sums t ring block s a)
        (Transmission.step host sums t ring s' b) := by
  cases a with
  | thread => exact Or.inl ⟨h.sender, h.unsent, h.nextAddress, thread_hidden h.net _⟩
  | transmission b =>
      cases b with
      | handler i rc =>
          rcases doSendQueuedFrames_shows ring rc h.net i with hstay | hfollow
          · exact Or.inl ⟨h.sender, h.unsent, h.nextAddress, hstay⟩
          · exact Or.inr ⟨_, rfl, h.sender, h.unsent, h.nextAddress, hfollow⟩
      | sender b =>
          show Hides (Transmission.step host sums t ring s (.sender b)) s' ∨ _
          by_cases hsend : b = .thread ∧ s.sender.pc = .send
          · have hsame : b = .thread ∧ s'.sender.pc = .send := by
              rw [h.sender]
              exact hsend
            have hstep : Transmission.step host sums t ring s (.sender b) =
                Transmission.sendFrames host sums t s := if_pos hsend
            have hstep' : Transmission.step host sums t ring s' (.sender b) =
                Transmission.sendFrames host sums t s' := if_pos hsame
            rw [hstep]
            rcases sendFrames_hides h with hstay | hfollow
            · exact Or.inl hstay
            · refine Or.inr ⟨.sender b, rfl, ?_⟩
              show Hides (Transmission.step host sums t ring s (.sender b)) _
              rw [hstep, hstep']
              exact hfollow
          · have hsame : ¬ (b = .thread ∧ s'.sender.pc = .send) := by
              rw [h.sender]
              exact hsend
            refine Or.inr ⟨.sender b, rfl, ?_⟩
            show Hides (Transmission.step host sums t ring s (.sender b)) _
            simp only [Transmission.step, if_neg hsend, if_neg hsame]
            exact ⟨by rw [h.sender], h.unsent, h.nextAddress, h.net⟩

theorem initial_hides :
    Hides (Transmission.State.initial n) (Transmission.State.initial n) :=
  ⟨rfl, rfl, rfl, rfl, fun _ => rfl, rfl, rfl, rfl, rfl⟩

variable (host sums t ring block)

theorem run_hides (as : List (Action n)) :
    exists bs, (bs.map Action.transmission).Sublist as ∧
      Hides (run (step host sums t ring block) (Transmission.State.initial n) as)
        (run (Transmission.step host sums t ring) (Transmission.State.initial n) bs) :=
  exists_followed_run (R := Hides) (fun _ _ a h => step_hides h a) initial_hides as

end Following

/-!
## The requests
-/

section Requests

variable {n : Nat}

structure Padded (u : PFringHandler.State n) : Prop where
  sending : forall i data pkt, u.handlers i = .sending data pkt ->
    pkt = onTheWire data
  handed : forall x, x ∈ u.handed -> x.packet = onTheWire x.data

/-- The frame of the thread is the only one that may not be deleted. -/
structure OnlyRequests (request : DataContainer) (u : PFringHandler.State n) :
    Prop where
  balanced : Conveyor.Balanced (view u)
  padded : Padded u
  enqueued : forall c, c ∈ u.enqueued -> ¬ Owned c ->
    c = { request with ownerMayFreeData := false }

variable {request : DataContainer} {u : PFringHandler.State n}

theorem asyncSendFrame_onlyRequests (h : OnlyRequests request u)
    {data : DataContainer}
    (hdata : ¬ Owned data -> data = { request with ownerMayFreeData := false }) :
    OnlyRequests request (asyncSendFrame u data) := by
  refine ⟨Conveyor.steps_balanced (asyncSendFrame_view u data) h.balanced, ?_, ?_⟩
  · unfold asyncSendFrame
    split
    · exact ⟨h.padded.sending, h.padded.handed⟩
    · exact h.padded
  · unfold asyncSendFrame
    split
    · intro c hc
      rcases List.mem_append.mp hc with hold | hnew
      · exact h.enqueued c hold
      · rw [List.mem_singleton.mp hnew]
        exact hdata
    · exact h.enqueued

theorem Padded.update (h : Padded u) {i : Fin n} {phase : Phase}
    (hphase : forall data pkt, phase = .sending data pkt -> pkt = onTheWire data) :
    forall j data pkt, Function.update u.handlers i phase j = .sending data pkt ->
      pkt = onTheWire data :=
  (Function.forall_update_iff u.handlers (p := fun _ phase => forall data pkt,
    phase = .sending data pkt -> pkt = onTheWire data)).mpr
      ⟨hphase, fun j _ => h.sending j⟩

theorem handler_padded {ring : Fin n -> Bool} {i : Fin n}
    {u' : PFringHandler.State n} (hmove : HandlerMove ring u i u') (h : Padded u) :
    Padded u' := by
  cases hmove with
  | empty hphase hqueue => exact ⟨h.sending, h.handed⟩
  | pop data rest hphase hqueue => exact ⟨h.update nofun, h.handed⟩
  | reject data hphase hfails => exact ⟨h.update nofun, h.handed⟩
  | start data hphase hpasses =>
      refine ⟨h.update ?_, h.handed⟩
      intro data' pkt hsending
      cases hsending
      rfl
  | retry data pkt hphase => exact h
  | accept data pkt rc hphase hrc =>
      refine ⟨h.update nofun, ?_⟩
      intro x hx
      rcases List.mem_append.mp hx with hold | hnew
      · exact h.handed x hold
      · rw [List.mem_singleton.mp hnew]
        exact h.sending i data pkt hphase
  | release data bytes hphase => exact ⟨h.update nofun, h.handed⟩

theorem handler_onlyRequests {ring : Fin n -> Bool} {i : Fin n}
    {u' : PFringHandler.State n} (hmove : HandlerMove ring u i u')
    (h : OnlyRequests request u) : OnlyRequests request u' := by
  refine ⟨Conveyor.steps_balanced (handler_view hmove) h.balanced,
    handler_padded hmove h.padded, ?_⟩
  cases hmove <;> exact h.enqueued

theorem initial_onlyRequests (request : DataContainer) :
    OnlyRequests request (PFringHandler.State.initial n) :=
  ⟨initial_balanced, ⟨nofun, nofun⟩, nofun⟩

theorem OnlyRequests.handed_request (h : OnlyRequests request u) {x : Handed}
    (hx : x ∈ u.handed) (hdata : ¬ Owned x.data) : x.packet = onTheWire request := by
  have hentered : x.data ∈ (view u).entered :=
    h.balanced.mem_entered_iff.mpr
      (Or.inr ⟨Exit.handed, Multiset.mem_coe.mpr (List.mem_map_of_mem hx)⟩)
  rw [h.padded.handed x hx, h.enqueued x.data (Multiset.mem_coe.mp hentered) hdata]
  rfl

end Requests

section Runs

variable {n : Nat} (host : Host) (sums : ChecksumFunctions) (t : Templates)
  (ring : Fin n -> Bool) (block : FreshBlock)

theorem step_onlyRequests (s : Transmission.State n) (a : Action n)
    (h : OnlyRequests (arp host block) s.net) :
    OnlyRequests (arp host block) (step host sums t ring block s a).net := by
  cases a with
  | thread => exact asyncSendFrame_onlyRequests h fun _ => rfl
  | transmission b =>
      show OnlyRequests _ (Transmission.step host sums t ring s b).net
      cases b with
      | handler i rc => exact handler_onlyRequests (handler_move ring s.net i rc) h
      | sender b =>
          unfold Transmission.step
          dsimp only
          split
          · unfold Transmission.sendFrames
            split
            · exact h
            · exact h
            · split
              · exact asyncSendFrame_onlyRequests h fun hdata => absurd rfl hdata
              · exact h
          · exact h

theorem run_onlyRequests (as : List (Action n)) :
    OnlyRequests (arp host block)
      (run (step host sums t ring block) (Transmission.State.initial n) as).net := by
  have hinitial : OnlyRequests (arp host block) (Transmission.State.initial n).net :=
    initial_onlyRequests (arp host block)
  exact run_invariant
    (I := fun s : Transmission.State n => OnlyRequests (arp host block) s.net)
    (step_onlyRequests host sums t ring block) hinitial as

structure Sends (cfg : Config) (as : List (Action n)) (s : Transmission.State n) :
    Prop where
  requests : forall x, x ∈ s.net.handed -> ¬ Owned x.data ->
    x.packet.length = 60 ∧ parseARP x.packet =
      arpPacket host.myMac zeroMac host.myIP host.myIP 1
  served : exists bs, (bs.map Action.transmission).Sublist as ∧
    let s' := run (Transmission.step host sums t ring) (Transmission.State.initial n) bs
    Hides s s' ∧ Served host cfg sums bs s'

end Runs

theorem run_served {n : Nat} {host : Host} {cfg : Config} {sums : ChecksumFunctions}
    {t : Templates} {ring : Fin n -> Bool} (hcfg : cfg.WellFormed host)
    (hsums : sums.Documented) (hinit : Initialize host cfg Templates.initial = .ok t)
    (hring : forall i, ring i = true)
    (hlimit : 54 + 12 * t.maxTriggersPerL1MRP.toNat ≤ 1500)
    (bs : List (Transmission.Action n)) :
    Served host cfg sums bs
      (run (Transmission.step host sums t ring) (Transmission.State.initial n) bs) := by
  have hfits := Transmission.run_batchFits host sums t ring bs hlimit
  rcases Transmission.run_composed hring hfits with ⟨hdelivering, hcomposed⟩
  rcases Transmission.run_genuine_dealt host sums t ring bs with
    ⟨cs, hsub, hgenuine, hdealt⟩
  exact Transmission.served hcfg hsums (Transmission.initialize_endpoints hcfg hinit)
    hdelivering hcomposed hdealt hgenuine hsub

/--
In every interleaving of the thread with the others, the frames of L1 are those of
a run without the thread, in which the front ends are served.  The driver gets
nothing else but the request.
-/
theorem node_serves {n : Nat} {host : Host} {cfg : Config} {sums : ChecksumFunctions}
    {t : Templates} {ring : Fin n -> Bool} (block : FreshBlock)
    (hcfg : cfg.WellFormed host) (hsums : sums.Documented)
    (hinit : Initialize host cfg Templates.initial = .ok t)
    (hring : forall i, ring i = true)
    (hlimit : 54 + 12 * cfg.maxTriggersPerMRP.toNat ≤ 1500) (as : List (Action n)) :
    Sends host sums t ring cfg as
      (run (step host sums t ring block) (Transmission.State.initial n) as) := by
  constructor
  · intro x hx hdata
    rw [(run_onlyRequests host sums t ring block as).handed_request hx hdata]
    exact ⟨generateARPv4_length block host.myMac zeroMac host.myIP host.myIP 1,
      parseARP_gratuitous block host.myMac host.myIP⟩
  · rcases run_hides host sums t ring block as with ⟨bs, hsub, hhides⟩
    rw [← initialize_limit hcfg hinit] at hlimit
    exact ⟨bs, hsub, hhides, run_served hcfg hsums hinit hring hlimit bs⟩

def requestFirst : List (Action 1) :=
  .thread :: Transmission.transmitOne.map Action.transmission

theorem node_serves_request :
    Sends loopbackHost ChecksumFunctions.reference Transmission.initializedTemplates
      (fun _ => true) loopbackConfig requestFirst
      (run (step loopbackHost ChecksumFunctions.reference
        Transmission.initializedTemplates (fun _ : Fin 1 => true)
        { address := 0, content := Vector.replicate 64 0 })
        (Transmission.State.initial 1) requestFirst) :=
  node_serves _ loopbackConfig_wellFormed ChecksumFunctions.reference_documented rfl
    (fun _ => rfl) (by decide) requestFirst

end Node
end L1
end FarmNetworking
