import FarmNetworking.L1.BatchFrames
import FarmNetworking.L1.Endpoints

/-!
# Calling Initialize again

The lists of templates are static members, and `Initialize` appends to them.  So a
second call does not replace a configuration: the limit on the triggers is the new
one, and batches go to the endpoints of all calls, each with its own ports.
-/

namespace FarmNetworking
namespace L1

open Foundation ByteString
open Structs Socket EthernetUtils

/-- One call after the other, until one of them dies. -/
def initializeAll (host : Host) :
    List Config -> Templates -> Except Templates Templates
  | [], t => .ok t
  | cfg :: rest, t =>
      match Initialize host cfg t with
      | .ok t => initializeAll host rest t
      | .error t => .error t

structure Accumulated (host : Host) (cfgs : List Config) (before t : Templates) :
    Prop where
  unicast : t.l1UnicastRequestHdrs = before.l1UnicastRequestHdrs ++
    cfgs.flatMap fun cfg =>
      (cfg.unicastEndpoints host).map (endpointTemplate host cfg)
  multicast : t.l1MulticastRequestHdrs = before.l1MulticastRequestHdrs ++
    cfgs.flatMap fun cfg =>
      (cfg.multicastEndpoints host).map (endpointTemplate host cfg)
  maxTriggers : t.maxTriggersPerL1MRP =
    ((cfgs.map Config.maxTriggersPerMRP).getLast?).getD before.maxTriggersPerL1MRP

section Calls

variable {host : Host}

theorem initialize_appends {cfg : Config} (h : cfg.WellFormed host)
    (t : Templates) :
    exists t', Initialize host cfg t = .ok t' ∧
      t'.maxTriggersPerL1MRP = cfg.maxTriggersPerMRP ∧
      t'.l1UnicastRequestHdrs = t.l1UnicastRequestHdrs ++
        (cfg.unicastEndpoints host).map (endpointTemplate host cfg) ∧
      t'.l1MulticastRequestHdrs = t.l1MulticastRequestHdrs ++
        (cfg.multicastEndpoints host).map (endpointTemplate host cfg) := by
  rcases Option.isSome_iff_exists.mp h.gatewayMAC with ⟨mac, hmac⟩
  simp only [Initialize]
  rw [initializeMulticast_eq]
  change exists t', (initializeUnicast host cfg 0 cfg.unicastAddress _ >>= _) = _ ∧ _
  rw [initializeUnicast_eq host cfg hmac _ h.unicastAddress, hmac]
  refine ⟨_, rfl, rfl, ?_, ?_⟩
  · simp [Config.unicastEndpoints, hmac, Function.comp_def]
  · simp [Config.multicastEndpoints, Function.comp_def]

theorem initializeAll_accumulates (cfgs : List Config)
    (h : forall cfg, cfg ∈ cfgs -> cfg.WellFormed host) (before : Templates) :
    exists t, initializeAll host cfgs before = .ok t ∧
      Accumulated host cfgs before t := by
  induction cfgs generalizing before with
  | nil => exact ⟨before, rfl, by simp, by simp, rfl⟩
  | cons cfg rest ih =>
      rcases initialize_appends (h cfg (List.mem_cons_self ..)) before with
        ⟨t', hcall, hmax, hunicast, hmulticast⟩
      rcases ih (fun c hc => h c (List.mem_cons_of_mem cfg hc)) t' with
        ⟨t, hrest, haccumulated⟩
      refine ⟨t, ?_, ?_, ?_, ?_⟩
      · rw [initializeAll, hcall]
        exact hrest
      · rw [haccumulated.unicast, hunicast, List.flatMap_cons, List.append_assoc]
      · rw [haccumulated.multicast, hmulticast, List.flatMap_cons,
          List.append_assoc]
      · rw [haccumulated.maxTriggers, hmax, List.map_cons, List.getLast?_cons]
        rfl

end Calls

section Frames

variable {pointer : Type} (host : Host) (sums : ChecksumFunctions)
  (deref : pointer -> TriggerRawHDR) (triggers : List pointer)
  (endpoints : Config -> List Endpoint)

def framesTo (cfgs : List Config) : List (List UInt8) :=
  cfgs.flatMap fun cfg => (endpoints cfg).map fun e =>
    frameOf sums deref triggers (endpointTemplate host cfg e)

theorem framesTo_append (cfgs more : List Config) :
    framesTo host sums deref triggers endpoints (cfgs ++ more) =
      framesTo host sums deref triggers endpoints cfgs ++
        framesTo host sums deref triggers endpoints more :=
  List.flatMap_append

theorem framesTo_length_eq_zero (cfgs : List Config) :
    (framesTo host sums deref triggers endpoints cfgs).length = 0 <->
      forall cfg, cfg ∈ cfgs -> endpoints cfg = [] := by
  rw [List.length_eq_zero_iff, framesTo, List.flatMap_eq_nil_iff]
  exact forall₂_congr fun cfg _ => List.map_eq_nil_iff

def framesOfAll (cfgs : List Config) : List (List UInt8) :=
  framesTo host sums deref triggers (Config.unicastEndpoints host) cfgs ++
    framesTo host sums deref triggers (Config.multicastEndpoints host) cfgs

theorem framesOfAll_last_iff (cfgs : List Config) (last : Config) :
    framesOfAll host sums deref triggers (cfgs ++ [last]) =
        framesOfAll host sums deref triggers [last] <->
      forall cfg, cfg ∈ cfgs ->
        cfg.multicastGroupNames = [] ∧ cfg.unicastAddress = [] := by
  have hunicast := framesTo_length_eq_zero host sums deref triggers
    (Config.unicastEndpoints host) cfgs
  have hmulticast := framesTo_length_eq_zero host sums deref triggers
    (Config.multicastEndpoints host) cfgs
  simp only [framesOfAll, framesTo_append]
  constructor
  · intro hsame
    have hlength := congrArg List.length hsame
    simp only [List.length_append] at hlength
    intro cfg hcfg
    exact ⟨List.map_eq_nil_iff.mp (hmulticast.mp (by lia) cfg hcfg),
      List.map_eq_nil_iff.mp (hunicast.mp (by lia) cfg hcfg)⟩
  · intro hempty
    have hfirst := hunicast.mpr fun cfg hcfg =>
      List.map_eq_nil_iff.mpr (hempty cfg hcfg).right
    have hsecond := hmulticast.mpr fun cfg hcfg =>
      List.map_eq_nil_iff.mpr (hempty cfg hcfg).left
    rw [List.length_eq_zero_iff] at hfirst hsecond
    rw [hfirst, hsecond, List.nil_append, List.nil_append]

end Frames

/--
After any number of calls a batch is sent to the endpoints of all of them, cut to
the limit of the last call.  The calls before the last one leave no trace exactly
if they name no endpoints.
-/
theorem reinitialized_frames {host : Host} {cfgs : List Config} {last : Config}
    (h : forall cfg, cfg ∈ cfgs ++ [last] -> cfg.WellFormed host)
    (sums : ChecksumFunctions) {pointer : Type}
    (deref : pointer -> TriggerRawHDR) (triggers : List pointer)
    (hsize : 54 + 12 * min triggers.length last.maxTriggersPerMRP.toNat <
      4294967296) :
    exists t, initializeAll host (cfgs ++ [last]) Templates.initial = .ok t ∧
      exists placed, placed = triggers.reverse.take last.maxTriggersPerMRP.toNat ∧
        (asyncSendMRP host sums t deref triggers).frames =
          framesOfAll host sums deref placed (cfgs ++ [last]) ∧
        ((asyncSendMRP host sums t deref triggers).frames =
            framesOfAll host sums deref placed [last] <->
          forall cfg, cfg ∈ cfgs ->
            cfg.multicastGroupNames = [] ∧ cfg.unicastAddress = []) := by
  rcases initializeAll_accumulates _ h Templates.initial with
    ⟨t, hcalls, haccumulated⟩
  have hmax : t.maxTriggersPerL1MRP = last.maxTriggersPerMRP := by
    rw [haccumulated.maxTriggers]
    simp
  have hframes : (asyncSendMRP host sums t deref triggers).frames =
      framesOfAll host sums deref
        (triggers.reverse.take last.maxTriggersPerMRP.toNat) (cfgs ++ [last]) := by
    rw [asyncSendMRP_frames (by rw [batchSize, hmax]; exact hsize),
      haccumulated.unicast, haccumulated.multicast, batch, hmax, framesOfAll]
    simp [framesTo, Templates.initial, List.map_flatMap, Function.comp_def]
  refine ⟨t, hcalls, _, rfl, hframes, ?_⟩
  rw [hframes]
  exact framesOfAll_last_iff host sums deref _ cfgs last

/-- The same configuration twice. -/
theorem reinitialized_frames_twice :
    exists t, initializeAll loopbackHost ([loopbackConfig] ++ [loopbackConfig])
        Templates.initial = .ok t ∧
      exists placed, placed = ([5, 6] : List UInt32).reverse.take 4 ∧
        (asyncSendMRP loopbackHost ChecksumFunctions.reference t
            (fun p => generateTriggerHDR (requestedEvent p) false) [5, 6]).frames =
          framesOfAll loopbackHost ChecksumFunctions.reference
            (fun p => generateTriggerHDR (requestedEvent p) false) placed
            ([loopbackConfig] ++ [loopbackConfig]) ∧
        ((asyncSendMRP loopbackHost ChecksumFunctions.reference t
              (fun p => generateTriggerHDR (requestedEvent p) false) [5, 6]).frames =
            framesOfAll loopbackHost ChecksumFunctions.reference
              (fun p => generateTriggerHDR (requestedEvent p) false) placed
              [loopbackConfig] <->
          forall cfg, cfg ∈ [loopbackConfig] ->
            cfg.multicastGroupNames = [] ∧ cfg.unicastAddress = []) :=
  reinitialized_frames
    (fun cfg hcfg => by
      rw [List.mem_append, List.mem_singleton, or_self] at hcfg
      rw [hcfg]
      exact loopbackConfig_wellFormed)
    ChecksumFunctions.reference _ [5, 6] (by decide)

end L1
end FarmNetworking
