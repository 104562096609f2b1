import FarmNetworking.L1.Endpoints
import FarmNetworking.Socket.MACFormat

/-!
# Malformed configurations

The three conversions of `Initialize` signal a malformed string in three ways:
`inet_addr` returns INADDR_NONE, `inet_pton` leaves its destination as it is, and
`stringToMAC` returns a null pointer.  None of these signals is looked at.
-/

namespace FarmNetworking
namespace L1

open Foundation ByteString
open Structs Socket EthernetUtils

section Configuration

variable (host : Host) (groupDenotes : String -> Option UInt32) (cfg : Config)

/-- INADDR_NONE is also what the broadcast address denotes. -/
def InetAddrDocumented : Prop :=
  forall name, host.inetAddr name = (groupDenotes name).getD 0xffffffff

structure Readable : Prop where
  multicastGroupNames : forall name, name ∈ cfg.multicastGroupNames ->
    exists group, groupDenotes name = some group
  unicastAddress : forall a, a ∈ cfg.unicastAddress ->
    exists address, host.inetPton a = some address
  gatewayMAC : InFormat cfg.gatewayMAC

def GroupEndpoint (name : String) (e : Endpoint) : Prop :=
  exists group, groupDenotes name = some group ∧ e = multicastEndpoint group

def UnicastEndpoint (a : String) (e : Endpoint) : Prop :=
  Denotes cfg.gatewayMAC e.mac ∧ host.inetPton a = some e.address

structure Adds (t t' : Templates) : Prop where
  multicast : exists es,
    List.Forall₂ (GroupEndpoint groupDenotes) cfg.multicastGroupNames es ∧
      t'.l1MulticastRequestHdrs =
        t.l1MulticastRequestHdrs ++ es.map (endpointTemplate host cfg)
  unicast : exists es,
    List.Forall₂ (UnicastEndpoint host cfg) cfg.unicastAddress es ∧
      t'.l1UnicastRequestHdrs =
        t.l1UnicastRequestHdrs ++ es.map (endpointTemplate host cfg)
  gateway : exists mac, Denotes cfg.gatewayMAC mac ∧
    t'.l1UnicastRequestHdr =
      some (endpointTemplate host cfg { mac := mac, address := 0 })

/-- How a call may end.  `Initialize` is void and raises nothing. -/
inductive Ending where
  | returned (t : Templates)
  | reported (t : Templates)
  | nullMac (t : Templates)

def ending : Except Templates Templates -> Ending
  | .ok t => .returned t
  | .error t => .nullMac t

/-- A call adds all templates or reports a malformed string and adds none. -/
def ValidatesOrKeeps (t : Templates) : Ending -> Prop
  | .returned t' => Adds host groupDenotes cfg t t'
  | .reported t' =>
      ¬Readable host groupDenotes cfg ∧
        t'.l1MulticastRequestHdrs = t.l1MulticastRequestHdrs ∧
        t'.l1UnicastRequestHdrs = t.l1UnicastRequestHdrs
  | .nullMac _ => False

end Configuration

section Lemmas

variable {host : Host} {groupDenotes : String -> Option UInt32} {cfg : Config}

theorem exists_of_forall₂ {A B : Type} {r : A -> B -> Prop} {as : List A}
    {bs : List B} (h : List.Forall₂ r as bs) :
    forall a, a ∈ as -> exists b, r a b := by
  have hboth : List.Forall₂ (fun a b => (exists b, r a b) ∧ r a b) as bs :=
    h.imp fun _ b hr => ⟨⟨b, hr⟩, hr⟩
  exact ((List.forall₂_and_left _ _).mp hboth).left

theorem forall₂_map {A B : Type} {r : A -> B -> Prop} {f : A -> B} {as : List A}
    (h : forall a, a ∈ as -> r a (f a)) : List.Forall₂ r as (as.map f) := by
  rw [List.forall₂_map_right_iff]
  exact List.forall₂_same.mpr h

theorem Adds.readable {t t' : Templates} (h : Adds host groupDenotes cfg t t') :
    Readable host groupDenotes cfg := by
  rcases h.multicast with ⟨groups, hgroups, _⟩
  rcases h.unicast with ⟨addresses, haddresses, _⟩
  rcases h.gateway with ⟨mac, hmac, _⟩
  constructor
  · intro name hname
    rcases exists_of_forall₂ hgroups name hname with ⟨_, group, hgroup, _⟩
    exact ⟨group, hgroup⟩
  · intro a ha
    rcases exists_of_forall₂ haddresses a ha with ⟨e, _, haddress⟩
    exact ⟨e.address, haddress⟩
  · exact ⟨mac, hmac⟩

theorem initialize_adds (hinet : InetAddrDocumented host groupDenotes)
    (h : Readable host groupDenotes cfg) (t : Templates) :
    exists t', Initialize host cfg t = .ok t' ∧
      Adds host groupDenotes cfg t t' := by
  rcases h.gatewayMAC with ⟨mac, hmac⟩
  have hgateway := stringToMAC_denotes hmac
  have hunicast : forall a, a ∈ cfg.unicastAddress ->
      (host.inetPton a).isSome := by
    intro a ha
    exact Option.isSome_iff_exists.mpr (h.unicastAddress a ha)
  refine ⟨?_, ?_, ?_⟩
  · exact
      { maxTriggersPerL1MRP := cfg.maxTriggersPerMRP
        minUsecBetweenL1Requests := cfg.minUsecBetweenL1Requests
        l1MulticastRequestHdrs := t.l1MulticastRequestHdrs ++
          cfg.multicastGroupNames.map (fun name =>
            endpointTemplate host cfg (multicastEndpoint (host.inetAddr name)))
        l1UnicastRequestHdrs := t.l1UnicastRequestHdrs ++
          cfg.unicastAddress.map (fun a => endpointTemplate host cfg
            { mac := mac, address := (host.inetPton a).getD 0 })
        l1UnicastRequestHdr :=
          some (endpointTemplate host cfg { mac := mac, address := 0 }) }
  · simp only [Initialize]
    rw [initializeMulticast_eq]
    show (initializeUnicast host cfg 0 cfg.unicastAddress _ >>= _) = _
    rw [initializeUnicast_eq host cfg hgateway _ hunicast, hgateway]
    rfl
  · constructor
    · exists cfg.multicastGroupNames.map fun name =>
        multicastEndpoint (host.inetAddr name)
      constructor
      · apply forall₂_map
        intro name hname
        rcases h.multicastGroupNames name hname with ⟨group, hgroup⟩
        refine ⟨group, hgroup, ?_⟩
        rw [hinet, hgroup]
        rfl
      · simp [Function.comp_def]
    · exists cfg.unicastAddress.map fun a =>
        { mac := mac, address := (host.inetPton a).getD 0 }
      constructor
      · apply forall₂_map
        intro a ha
        rcases h.unicastAddress a ha with ⟨address, haddress⟩
        refine ⟨hmac, ?_⟩
        rw [haddress]
        rfl
      · simp [Function.comp_def]
    · exact ⟨mac, hmac, rfl⟩

/--
With a gateway that cannot be read every call ends at a null pointer, after all
group templates have been appended.
-/
theorem initialize_null (hgateway : stringToMAC cfg.gatewayMAC = none)
    (t : Templates) :
    exists t', Initialize host cfg t = .error t' ∧
      t'.l1MulticastRequestHdrs = t.l1MulticastRequestHdrs ++
        cfg.multicastGroupNames.map (fun name =>
          endpointTemplate host cfg (multicastEndpoint (host.inetAddr name))) := by
  have hnull : forall address,
      exists hdr, makeTemplate host cfg none address = .error hdr :=
    fun _ => ⟨_, rfl⟩
  simp only [Initialize]
  rw [initializeMulticast_eq]
  cases cfg.unicastAddress with
  | nil =>
      rcases hnull 0 with ⟨hdr, hhdr⟩
      rw [hgateway, hhdr]
      exact ⟨_, rfl, rfl⟩
  | cons a rest =>
      rcases hnull ((host.inetPton a).getD (host.stackContent 0)) with
        ⟨hdr, hhdr⟩
      simp only [initializeUnicast, hgateway, hhdr]
      exact ⟨_, rfl, rfl⟩

end Lemmas

/-- The law holds exactly for the configurations without a malformed string. -/
theorem initialize_validates_iff {host : Host}
    {groupDenotes : String -> Option UInt32}
    (hinet : InetAddrDocumented host groupDenotes) (cfg : Config)
    (t : Templates) :
    ValidatesOrKeeps host groupDenotes cfg t (ending (Initialize host cfg t)) <->
      Readable host groupDenotes cfg := by
  constructor
  · intro h
    cases hcall : Initialize host cfg t with
    | ok t' =>
        rw [hcall] at h
        exact h.readable
    | error t' =>
        rw [hcall] at h
        cases h
  · intro h
    rcases initialize_adds hinet h t with ⟨t', hcall, hadds⟩
    rw [hcall]
    exact hadds

theorem initialize_validates_loopback :
    ValidatesOrKeeps loopbackHost (fun _ => some 0x010000ef) loopbackConfig
        Templates.initial
        (ending (Initialize loopbackHost loopbackConfig Templates.initial)) <->
      Readable loopbackHost (fun _ => some 0x010000ef) loopbackConfig :=
  initialize_validates_iff (fun _ => rfl) loopbackConfig Templates.initial

def unreadableGateway : Config :=
  { loopbackConfig with gatewayMAC := "001b21c0ff09" }

theorem initialize_unreadable_gateway :
    ¬ValidatesOrKeeps loopbackHost (fun _ => some 0x010000ef) unreadableGateway
      Templates.initial
      (ending (Initialize loopbackHost unreadableGateway Templates.initial)) := by
  have hgateway : stringToMAC unreadableGateway.gatewayMAC = none := by decide
  rcases @initialize_null loopbackHost _ hgateway Templates.initial with
    ⟨t', hcall, _⟩
  rw [hcall]
  exact fun h => h

end L1
end FarmNetworking
