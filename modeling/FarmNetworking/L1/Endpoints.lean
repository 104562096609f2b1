import FarmNetworking.L1.L1DistributionHandler

/-!
# Endpoints

What a configuration means: a list of endpoints, each with the hardware and IP
address its packets go to.  The templates that `Initialize` builds from a
well-formed configuration are the templates of these endpoints, in order.
-/

namespace FarmNetworking
namespace L1

open Foundation ByteString
open Structs Socket EthernetUtils

/-- The address is in network byte order, as `inet_addr` returns it. -/
structure Endpoint where
  mac : MacAddress
  address : UInt32

/-- The multicast hardware address is `01:00:5e` and 23 bits of the group. -/
def multicastEndpoint (group : UInt32) : Endpoint where
  mac := #v[0x01, 0x00, 0x5e, UInt8.ofNat (group.toNat / 2 ^ 8) &&& 0x7f,
    UInt8.ofNat (group.toNat / 2 ^ 16), UInt8.ofNat (group.toNat / 2 ^ 24)]
  address := group

structure Config.WellFormed (host : Host) (cfg : Config) : Prop where
  gatewayMAC : (stringToMAC cfg.gatewayMAC).isSome
  unicastAddress : forall a, a ∈ cfg.unicastAddress -> (host.inetPton a).isSome
  sourcePort : cfg.sourcePort.toNat < 65536
  destinationPort : cfg.destinationPort.toNat < 65536

def Config.unicastEndpoints (host : Host) (cfg : Config) : List Endpoint :=
  cfg.unicastAddress.map fun a =>
    { mac := (stringToMAC cfg.gatewayMAC).getD (Vector.replicate 6 0)
      address := (host.inetPton a).getD 0 }

def Config.multicastEndpoints (host : Host) (cfg : Config) : List Endpoint :=
  cfg.multicastGroupNames.map fun name => multicastEndpoint (host.inetAddr name)

def endpointTemplate (host : Host) (cfg : Config) (e : Endpoint) :
    MRPFrameHDR where
  udp :=
    { eth :=
        { etherDhost := e.mac
          etherShost := host.myMac
          etherType := htons 0x0800 }
      ip :=
        { ihl := 5, version := 4, tos := 0, totLen := 0, id := 0,
          fragOff := htons 0x4000, ttl := 128, protocol := 17, check := 0,
          saddr := host.myIP, daddr := e.address }
      udp :=
        { source := htons cfg.sourcePort.toUInt16
          dest := htons cfg.destinationPort.toUInt16
          len := 0
          check := 0 } }
  mrpHDR :=
    { numberOfTriggers := 0
      mrpLength := 0
      ipAddress := host.myIP
      reserved := 0 }

theorem makeTemplate_some (host : Host) (cfg : Config) (mac : MacAddress)
    (address : UInt32) :
    makeTemplate host cfg (some mac) address =
      .ok (endpointTemplate host cfg { mac := mac, address := address }) := rfl

theorem generateMulticastMac_eq (group : UInt32) :
    generateMulticastMac group = (multicastEndpoint group).mac := by
  apply Vector.toList_inj.mp
  rw [generateMulticastMac_toList]
  rfl

theorem initializeMulticast_eq (host : Host) (cfg : Config)
    (names : List String) (t : Templates) :
    initializeMulticast host cfg names t =
      .ok { t with
        l1MulticastRequestHdrs := t.l1MulticastRequestHdrs ++
          names.map (fun name => endpointTemplate host cfg
            (multicastEndpoint (host.inetAddr name))) } := by
  induction names generalizing t with
  | nil => simp [initializeMulticast]
  | cons name rest ih =>
      rw [initializeMulticast, generateMulticastMac_eq, makeTemplate_some]
      change initializeMulticast host cfg rest _ = _
      rw [ih]
      simp [multicastEndpoint]

theorem initializeUnicast_eq (host : Host) (cfg : Config)
    {mac : MacAddress} (hmac : stringToMAC cfg.gatewayMAC = some mac)
    (addresses : List String)
    (haddr : forall a, a ∈ addresses -> (host.inetPton a).isSome)
    (i : Nat) (t : Templates) :
    initializeUnicast host cfg i addresses t =
      .ok { t with
        l1UnicastRequestHdrs := t.l1UnicastRequestHdrs ++
          addresses.map (fun a => endpointTemplate host cfg
            { mac := mac, address := (host.inetPton a).getD 0 }) } := by
  induction addresses generalizing i t with
  | nil => simp [initializeUnicast]
  | cons a rest ih =>
      have hrest : forall b, b ∈ rest -> (host.inetPton b).isSome :=
        fun b hb => haddr b (List.mem_cons_of_mem a hb)
      rcases Option.isSome_iff_exists.mp (haddr a (List.mem_cons_self ..)) with
        ⟨address, haddress⟩
      rw [initializeUnicast, hmac, haddress, makeTemplate_some]
      change initializeUnicast host cfg (i + 1) rest _ = _
      rw [ih hrest]
      simp [haddress]

theorem initialize_wellFormed {host : Host} {cfg : Config}
    (h : cfg.WellFormed host) :
    exists t : Templates,
      Initialize host cfg Templates.initial = .ok t ∧
        t.maxTriggersPerL1MRP = cfg.maxTriggersPerMRP ∧
        t.l1UnicastRequestHdrs =
          (cfg.unicastEndpoints host).map (endpointTemplate host cfg) ∧
        t.l1MulticastRequestHdrs =
          (cfg.multicastEndpoints host).map (endpointTemplate host cfg) := by
  rcases Option.isSome_iff_exists.mp h.gatewayMAC with ⟨mac, hmac⟩
  refine ⟨?_, ?_⟩
  · exact
      { maxTriggersPerL1MRP := cfg.maxTriggersPerMRP
        minUsecBetweenL1Requests := cfg.minUsecBetweenL1Requests
        l1MulticastRequestHdrs := cfg.multicastGroupNames.map (fun name =>
          endpointTemplate host cfg (multicastEndpoint (host.inetAddr name)))
        l1UnicastRequestHdrs := cfg.unicastAddress.map (fun a =>
          endpointTemplate host cfg
            { mac := mac, address := (host.inetPton a).getD 0 })
        l1UnicastRequestHdr := some (endpointTemplate host cfg
          { mac := mac, address := 0 }) }
  · refine ⟨?_, rfl, ?_, ?_⟩
    · simp only [Initialize, Templates.initial]
      rw [initializeMulticast_eq]
      change (initializeUnicast host cfg 0 cfg.unicastAddress _ >>= _) = _
      rw [initializeUnicast_eq host cfg hmac _ h.unicastAddress, hmac]
      rfl
    · simp [Config.unicastEndpoints, hmac, Function.comp_def]
    · simp [Config.multicastEndpoints, Function.comp_def]

/-!
A configuration with one unicast and one multicast endpoint, for examples.
-/

def loopbackHost : Host where
  myMac := #v[2, 0, 0, 0, 0, 1]
  myIP := 0x0100007f
  inetAddr := fun _ => 0x010000ef
  inetPton := fun _ => some 0x0200007f
  stackContent := fun _ => 0
  heapContent := fun _ => 0

def loopbackConfig : Config where
  maxTriggersPerMRP := 4
  minUsecBetweenL1Requests := 100
  multicastGroupNames := ["239.0.0.1"]
  unicastAddress := ["127.0.0.2"]
  sourcePort := 6666
  destinationPort := 58913
  gatewayMAC := "00:1b:21:c0:ff:09"

theorem loopbackConfig_wellFormed : loopbackConfig.WellFormed loopbackHost where
  gatewayMAC := by decide
  unicastAddress := fun _ _ => rfl
  sourcePort := by decide
  destinationPort := by decide

def loopbackTemplates : Templates where
  maxTriggersPerL1MRP := loopbackConfig.maxTriggersPerMRP
  minUsecBetweenL1Requests := loopbackConfig.minUsecBetweenL1Requests
  l1MulticastRequestHdrs := (loopbackConfig.multicastEndpoints loopbackHost).map
    (endpointTemplate loopbackHost loopbackConfig)
  l1UnicastRequestHdrs := (loopbackConfig.unicastEndpoints loopbackHost).map
    (endpointTemplate loopbackHost loopbackConfig)
  l1UnicastRequestHdr := none

def requestedEvent (number : UInt32) : Event where
  timestamp := 1000 + number
  finetime := 7
  triggerTypeWord := 0x0101
  eventNumber := number

end L1
end FarmNetworking
