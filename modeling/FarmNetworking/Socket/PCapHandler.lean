import FarmNetworking.Socket.InterfaceNames

/-!
# The constructor of the libpcap handler

The calls into the kernel that `NetworkHandler` of `socket/PCapHandler.cpp` makes
with a device name, in their order.  Two of the structures they pass have not
been cleared before the name is copied into them.
-/

namespace FarmNetworking
namespace Socket
namespace PCapHandler

open Foundation CStrings
open EthernetUtils

inductive KernelCall where
  | getIfAddr (ifrName : List UInt8)
  | getIfHwAddr (ifrName : List UInt8)
  | getIfFlags (ifrName : List UInt8)
  | setIfFlags (ifrName : List UInt8)
  | bindToDevice (optval : List UInt8) (optlen : Nat)
  | getIfIndex (ifrName : List UInt8)
  deriving DecidableEq

/-- The name that a call passes; none if the field has no terminating NUL. -/
def KernelCall.name? : KernelCall -> Option (List UInt8)
  | .getIfAddr ifrName => cString ifrName
  | .getIfHwAddr ifrName => cString ifrName
  | .getIfFlags ifrName => cString ifrName
  | .setIfFlags ifrName => cString ifrName
  | .bindToDevice optval optlen => (cString optval).map (·.take optlen)
  | .getIfIndex ifrName => cString ifrName

/-- What the name fields of the local variables held before. -/
structure Locals where
  ifr : IfrName
  ifopts : IfrName

structure Answers where
  socket : Bool
  reuseAddr : Bool
  bindToDevice : Bool
  rcvTimeo : Bool

def cStr (s : List UInt8) : List UInt8 :=
  s ++ [0]

/--
The constructor.  It returns when the socket cannot be opened and exits when one
of the options cannot be set.
-/
def networkHandler (before : Locals) (answers : Answers)
    (deviceName : List UInt8) : List KernelCall :=
  [.getIfAddr (ipRequest before.ifr deviceName),
    .getIfHwAddr (macRequest deviceName)] ++
  if answers.socket = false then []
  else
    let ifopts := strncpy before.ifopts.toList deviceName (deviceName.length - 1)
    -- the kernel fills in the flags and leaves the name as it is
    [.getIfFlags ifopts, .setIfFlags ifopts] ++
    if answers.reuseAddr = false then []
    else
      .bindToDevice (cStr deviceName) deviceName.length ::
      if answers.bindToDevice = false ∨ answers.rcvTimeo = false then []
      else
        [.getIfIndex (strncpy (List.replicate 16 0) deviceName deviceName.length)]

theorem networkHandler_cases {before : Locals} {answers : Answers}
    {deviceName : List UInt8} {call : KernelCall}
    (h : call ∈ networkHandler before answers deviceName) :
    call = .getIfAddr (ipRequest before.ifr deviceName) ∨
      call = .getIfHwAddr (macRequest deviceName) ∨
      answers.socket = true ∧
        (call = .getIfFlags (strncpy before.ifopts.toList deviceName
            (deviceName.length - 1)) ∨
          call = .setIfFlags (strncpy before.ifopts.toList deviceName
            (deviceName.length - 1)) ∨
          call = .bindToDevice (cStr deviceName) deviceName.length ∨
          call = .getIfIndex (strncpy (List.replicate 16 0) deviceName
            deviceName.length)) := by
  rw [networkHandler, List.mem_append] at h
  rcases h with hlookup | hrest
  · rw [List.mem_cons, List.mem_singleton] at hlookup
    rcases hlookup with rfl | rfl
    · exact Or.inl rfl
    · exact Or.inr (Or.inl rfl)
  · right
    right
    split at hrest
    next => cases hrest
    next hsocket =>
      refine ⟨Bool.of_not_eq_false hsocket, ?_⟩
      rw [List.mem_append, List.mem_cons, List.mem_singleton] at hrest
      rcases hrest with (rfl | rfl) | hrest
      · exact Or.inl rfl
      · exact Or.inr (Or.inl rfl)
      · right
        right
        split at hrest
        next => cases hrest
        next =>
          rcases List.mem_cons.mp hrest with rfl | hrest
          · exact Or.inl rfl
          · split at hrest
            next => cases hrest
            next => exact Or.inr (List.mem_singleton.mp hrest)

structure DeviceName where
  bytes : List UInt8
  nonempty : 0 < bytes.length
  fits : bytes.length ≤ 15
  no_nul : 0 ∉ bytes
  no_colon : colon ∉ bytes
  no_at : atSign ∉ bytes

namespace DeviceName

variable (d : DeviceName)

theorem interfaceName_eq : interfaceName d.bytes = d.bytes := by
  have hfits := d.fits
  apply interfaceName_plain d.no_colon d.no_at
  unfold npos
  lia

/-!
## The name in each call
-/

theorem macRequest_name : cString (macRequest d.bytes) = some d.bytes := by
  rw [macRequest, d.interfaceName_eq, cString_strcpy d.no_nul]

/-- A name of 15 characters needs the NUL that the field may hold at its end. -/
theorem ipRequest_name_iff (ifr : IfrName) :
    cString (ipRequest ifr d.bytes) = some d.bytes <->
      (d.bytes.length = 15 -> ifr[15] = 0) := by
  have hfits := d.fits
  rw [ipRequest, d.interfaceName_eq]
  rcases Nat.lt_or_ge d.bytes.length 15 with hlt | hge
  · constructor
    · intro _ hfull
      lia
    · intro _
      exact cString_strncpy d.no_nul _ (by lia)
  · have hfull : d.bytes.length = 15 := by lia
    have hlast : ifr.toList.drop 15 = [ifr[15]] := by
      have hlength : ifr.toList.length = 16 := Vector.length_toList
      rw [List.drop_eq_getElem_cons (by lia), List.drop_of_length_le (by lia)]
      simp
    rw [cString_strncpy_full_iff d.no_nul _ (by lia), hlast,
      List.drop_of_length_le (by lia), cString_eq_nil_iff]
    constructor
    · intro h _
      injection h
    · intro h
      rw [List.head?_cons, h hfull]

/-- The copy for the flags stops one character early and adds no NUL. -/
theorem flagsRequest_name_iff (ifopts : IfrName) :
    cString (strncpy ifopts.toList d.bytes (d.bytes.length - 1)) =
        some d.bytes <->
      ifopts.toList[d.bytes.length - 1]? = d.bytes.getLast? ∧
        ifopts.toList[d.bytes.length]? = some 0 := by
  have hpos := d.nonempty
  have hlast : d.bytes.length - 1 < d.bytes.length := by lia
  have hsucc : d.bytes.length - 1 + 1 = d.bytes.length := by lia
  have hend : d.bytes.drop (d.bytes.length - 1) =
      [d.bytes[d.bytes.length - 1]] := by
    rw [List.drop_eq_getElem_cons hlast, hsucc, List.drop_length]
  have hne : d.bytes[d.bytes.length - 1] ≠ 0 := by
    intro h
    apply d.no_nul
    rw [← h]
    exact List.getElem_mem hlast
  rw [cString_strncpy_full_iff d.no_nul _ (Nat.sub_le _ _), hend,
    cString_eq_singleton_iff hne, List.getElem?_drop, List.getElem?_drop,
    Nat.add_zero, hsucc, List.getLast?_eq_getElem?,
    List.getElem?_eq_getElem hlast]

theorem bind_name :
    (KernelCall.bindToDevice (cStr d.bytes) d.bytes.length).name? =
      some d.bytes := by
  rw [KernelCall.name?, cStr, cString_append d.no_nul, cString_nul]
  simp

theorem indexRequest_name :
    cString (strncpy (List.replicate 16 0) d.bytes d.bytes.length) =
      some d.bytes := by
  have hfits := d.fits
  have hroom : 16 - d.bytes.length = 16 - d.bytes.length - 1 + 1 := by lia
  rw [cString_strncpy_full_iff d.no_nul _ (Nat.le_refl _), List.drop_length,
    cString_eq_nil_iff, List.drop_replicate, hroom, List.replicate_succ]
  rfl

end DeviceName

/-!
## All calls together
-/

def SameInterface (before : Locals) (answers : Answers)
    (deviceName : List UInt8) : Prop :=
  forall call, call ∈ networkHandler before answers deviceName ->
    call.name? = some deviceName

structure HeldEnd (before : Locals) (answers : Answers)
    (deviceName : List UInt8) : Prop where
  ifr : deviceName.length = 15 -> before.ifr[15] = 0
  ifopts : answers.socket = true ->
    before.ifopts.toList[deviceName.length - 1]? = deviceName.getLast? ∧
      before.ifopts.toList[deviceName.length]? = some 0

/-- The name in every other call does not depend on what was there before. -/
theorem sameInterface_iff (before : Locals) (answers : Answers)
    (d : DeviceName) :
    SameInterface before answers d.bytes <->
      HeldEnd before answers d.bytes := by
  constructor
  · intro h
    constructor
    · apply (d.ipRequest_name_iff before.ifr).mp
      apply h (.getIfAddr _)
      simp [networkHandler]
    · intro hsocket
      apply (d.flagsRequest_name_iff before.ifopts).mp
      apply h (.getIfFlags _)
      simp [networkHandler, hsocket]
  · intro h call hcall
    have hip := (d.ipRequest_name_iff before.ifr).mpr h.ifr
    rcases networkHandler_cases hcall with rfl | rfl | ⟨hsocket, hrest⟩
    · exact hip
    · exact d.macRequest_name
    · have hflags := (d.flagsRequest_name_iff before.ifopts).mpr
        (h.ifopts hsocket)
      rcases hrest with rfl | rfl | rfl | rfl
      · exact hflags
      · exact hflags
      · exact d.bind_name
      · exact d.indexRequest_name

def eth0 : DeviceName where
  bytes := [0x65, 0x74, 0x68, 0x30]
  nonempty := by decide
  fits := by decide
  no_nul := by decide
  no_colon := by decide
  no_at := by decide

/-- In fields that held only zeros the flags are those of the interface `eth`. -/
theorem eth0_other_interface :
    ¬SameInterface
      { ifr := Vector.replicate 16 0, ifopts := Vector.replicate 16 0 }
      { socket := true, reuseAddr := true, bindToDevice := true, rcvTimeo := true }
      eth0.bytes := by
  intro h
  have hflags := h (.getIfFlags (strncpy (List.replicate 16 0) eth0.bytes 3))
    (by decide)
  revert hflags
  decide

end PCapHandler
end Socket
end FarmNetworking
