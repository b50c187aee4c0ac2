import AsynDriver.Library.Xdr

/-!
# The messages of `vxi11core_xdr.c` and `vxi11intr_xdr.c`

What `rpcgen` has made of the protocol description: a filter for each type, which encodes or decodes
with the same calls.  Four of them take a block of members at once where `XDR_INLINE` gives a buffer,
and do not check these members then.  The filters for the members are those of the RPC library.

* `CreateLinkParms.xdr`, .. — the filters; `Message` puts them into one family.
* `CreateLinkParms.Fits`, .. — the objects whose members the representation has.
* `Message.round_trip` — what goes out comes in, with or without a buffer at either end.
-/

namespace AsynDriver
namespace Vxi11
namespace Rpc

open Library
open Library.Xdr

/-- `Device_Error` -/
structure DeviceError where
  error : Int
  deriving DecidableEq, Repr

/-- `Create_LinkParms` -/
structure CreateLinkParms where
  clientId : Int
  lockDevice : Int32
  lockTimeout : Nat
  device : List UInt8
  deriving DecidableEq, Repr

/-- `Create_LinkResp` -/
structure CreateLinkResp where
  error : Int
  lid : Int
  abortPort : UInt16
  maxRecvSize : Nat
  deriving DecidableEq, Repr

/-- `Device_WriteParms` -/
structure DeviceWriteParms where
  lid : Int
  ioTimeout : Nat
  lockTimeout : Nat
  flags : Int
  data : List UInt8
  deriving DecidableEq, Repr

/-- `Device_WriteResp` -/
structure DeviceWriteResp where
  error : Int
  size : Nat
  deriving DecidableEq, Repr

/-- `Device_ReadParms` -/
structure DeviceReadParms where
  lid : Int
  requestSize : Nat
  ioTimeout : Nat
  lockTimeout : Nat
  flags : Int
  termChar : Int8
  deriving DecidableEq, Repr

/-- `Device_ReadResp` -/
structure DeviceReadResp where
  error : Int
  reason : Int
  data : List UInt8
  deriving DecidableEq, Repr

/-- `Device_ReadStbResp` -/
structure DeviceReadStbResp where
  error : Int
  stb : UInt8
  deriving DecidableEq, Repr

/-- `Device_GenericParms` -/
structure DeviceGenericParms where
  lid : Int
  flags : Int
  lockTimeout : Nat
  ioTimeout : Nat
  deriving DecidableEq, Repr

/-- `Device_RemoteFunc` -/
structure DeviceRemoteFunc where
  hostAddr : Nat
  hostPort : Nat
  progNum : Nat
  progVers : Nat
  progFamily : Int32
  deriving DecidableEq, Repr

/-- `Device_EnableSrqParms` -/
structure DeviceEnableSrqParms where
  lid : Int
  enable : Int32
  handle : List UInt8
  deriving DecidableEq, Repr

/-- `Device_LockParms` -/
structure DeviceLockParms where
  lid : Int
  flags : Int
  lockTimeout : Nat
  deriving DecidableEq, Repr

/-- `Device_DocmdParms` -/
structure DeviceDocmdParms where
  lid : Int
  flags : Int
  ioTimeout : Nat
  lockTimeout : Nat
  cmd : Int
  networkOrder : Int32
  datasize : Int
  dataIn : List UInt8
  deriving DecidableEq, Repr

/-- `Device_DocmdResp` -/
structure DeviceDocmdResp where
  error : Int
  dataOut : List UInt8
  deriving DecidableEq, Repr

/-- `Device_SrqParms` -/
structure DeviceSrqParms where
  handle : List UInt8
  deriving DecidableEq, Repr

/-! ## Objects that were cleared -/

def DeviceError.cleared : DeviceError := ⟨0⟩

def CreateLinkParms.cleared : CreateLinkParms := ⟨0, 0, 0, []⟩

def CreateLinkResp.cleared : CreateLinkResp := ⟨0, 0, 0, 0⟩

def DeviceWriteParms.cleared : DeviceWriteParms := ⟨0, 0, 0, 0, []⟩

def DeviceWriteResp.cleared : DeviceWriteResp := ⟨0, 0⟩

def DeviceReadParms.cleared : DeviceReadParms := ⟨0, 0, 0, 0, 0, 0⟩

def DeviceReadResp.cleared : DeviceReadResp := ⟨0, 0, []⟩

def DeviceReadStbResp.cleared : DeviceReadStbResp := ⟨0, 0⟩

def DeviceGenericParms.cleared : DeviceGenericParms := ⟨0, 0, 0, 0⟩

def DeviceRemoteFunc.cleared : DeviceRemoteFunc := ⟨0, 0, 0, 0, 0⟩

def DeviceEnableSrqParms.cleared : DeviceEnableSrqParms := ⟨0, 0, []⟩

def DeviceLockParms.cleared : DeviceLockParms := ⟨0, 0, 0⟩

def DeviceDocmdParms.cleared : DeviceDocmdParms := ⟨0, 0, 0, 0, 0, 0, 0, []⟩

def DeviceDocmdResp.cleared : DeviceDocmdResp := ⟨0, []⟩

def DeviceSrqParms.cleared : DeviceSrqParms := ⟨[]⟩

/-! ## The filters -/

section
variable (lib : Filters)

/-- `~0`, where the protocol sets no limit. -/
def anyLength : UInt32 := ~~~0

/-- `xdr_Device_Error` -/
def DeviceError.xdr : Codec UInt8 DeviceError :=
  (lib.long false).on ⟨error, fun o v => { o with error := v }⟩

/-- The members of `Create_LinkParms` that `XDR_INLINE` serves. -/
def CreateLinkParms.block (buf : Bool) : Codec UInt8 CreateLinkParms :=
  ((lib.long buf).on ⟨clientId, fun o v => { o with clientId := v }⟩)
  |>.seq ((lib.bool buf).on ⟨lockDevice, fun o v => { o with lockDevice := v }⟩)
  |>.seq ((lib.uLong buf).on ⟨lockTimeout, fun o v => { o with lockTimeout := v }⟩)

/-- `xdr_Create_LinkParms` -/
def CreateLinkParms.xdr (buf : Bool) : Codec UInt8 CreateLinkParms :=
  (block lib buf)
  |>.seq ((lib.string anyLength).on ⟨device, fun o v => { o with device := v }⟩)

/-- `xdr_Create_LinkResp` -/
def CreateLinkResp.xdr : Codec UInt8 CreateLinkResp :=
  ((lib.long false).on ⟨error, fun o v => { o with error := v }⟩)
  |>.seq ((lib.long false).on ⟨lid, fun o v => { o with lid := v }⟩)
  |>.seq (lib.uShort.on ⟨abortPort, fun o v => { o with abortPort := v }⟩)
  |>.seq ((lib.uLong false).on ⟨maxRecvSize, fun o v => { o with maxRecvSize := v }⟩)

/-- `xdr_Device_WriteParms` -/
def DeviceWriteParms.xdr : Codec UInt8 DeviceWriteParms :=
  ((lib.long false).on ⟨lid, fun o v => { o with lid := v }⟩)
  |>.seq ((lib.uLong false).on ⟨ioTimeout, fun o v => { o with ioTimeout := v }⟩)
  |>.seq ((lib.uLong false).on ⟨lockTimeout, fun o v => { o with lockTimeout := v }⟩)
  |>.seq ((lib.long false).on ⟨flags, fun o v => { o with flags := v }⟩)
  |>.seq ((lib.bytes anyLength).on ⟨data, fun o v => { o with data := v }⟩)

/-- `xdr_Device_WriteResp` -/
def DeviceWriteResp.xdr : Codec UInt8 DeviceWriteResp :=
  ((lib.long false).on ⟨error, fun o v => { o with error := v }⟩)
  |>.seq ((lib.uLong false).on ⟨size, fun o v => { o with size := v }⟩)

/-- The members of `Device_ReadParms` that `XDR_INLINE` serves. -/
def DeviceReadParms.block (buf : Bool) : Codec UInt8 DeviceReadParms :=
  ((lib.uLong buf).on ⟨requestSize, fun o v => { o with requestSize := v }⟩)
  |>.seq ((lib.uLong buf).on ⟨ioTimeout, fun o v => { o with ioTimeout := v }⟩)
  |>.seq ((lib.uLong buf).on ⟨lockTimeout, fun o v => { o with lockTimeout := v }⟩)

/-- `xdr_Device_ReadParms` -/
def DeviceReadParms.xdr (buf : Bool) : Codec UInt8 DeviceReadParms :=
  ((lib.long false).on ⟨lid, fun o v => { o with lid := v }⟩)
  |>.seq (block lib buf)
  |>.seq ((lib.long false).on ⟨flags, fun o v => { o with flags := v }⟩)
  |>.seq (lib.char.on ⟨termChar, fun o v => { o with termChar := v }⟩)

/-- `xdr_Device_ReadResp` -/
def DeviceReadResp.xdr : Codec UInt8 DeviceReadResp :=
  ((lib.long false).on ⟨error, fun o v => { o with error := v }⟩)
  |>.seq ((lib.long false).on ⟨reason, fun o v => { o with reason := v }⟩)
  |>.seq ((lib.bytes anyLength).on ⟨data, fun o v => { o with data := v }⟩)

/-- `xdr_Device_ReadStbResp` -/
def DeviceReadStbResp.xdr : Codec UInt8 DeviceReadStbResp :=
  ((lib.long false).on ⟨error, fun o v => { o with error := v }⟩)
  |>.seq (lib.uChar.on ⟨stb, fun o v => { o with stb := v }⟩)

/-- `xdr_Device_GenericParms` -/
def DeviceGenericParms.xdr : Codec UInt8 DeviceGenericParms :=
  ((lib.long false).on ⟨lid, fun o v => { o with lid := v }⟩)
  |>.seq ((lib.long false).on ⟨flags, fun o v => { o with flags := v }⟩)
  |>.seq ((lib.uLong false).on ⟨lockTimeout, fun o v => { o with lockTimeout := v }⟩)
  |>.seq ((lib.uLong false).on ⟨ioTimeout, fun o v => { o with ioTimeout := v }⟩)

/-- The members of `Device_RemoteFunc` that `XDR_INLINE` serves. -/
def DeviceRemoteFunc.block (buf : Bool) : Codec UInt8 DeviceRemoteFunc :=
  ((lib.uLong buf).on ⟨hostAddr, fun o v => { o with hostAddr := v }⟩)
  |>.seq ((lib.uLong buf).on ⟨hostPort, fun o v => { o with hostPort := v }⟩)
  |>.seq ((lib.uLong buf).on ⟨progNum, fun o v => { o with progNum := v }⟩)
  |>.seq ((lib.uLong buf).on ⟨progVers, fun o v => { o with progVers := v }⟩)

/-- `xdr_Device_RemoteFunc` -/
def DeviceRemoteFunc.xdr (buf : Bool) : Codec UInt8 DeviceRemoteFunc :=
  (block lib buf)
  |>.seq (lib.enum.on ⟨progFamily, fun o v => { o with progFamily := v }⟩)

/-- `xdr_Device_EnableSrqParms` -/
def DeviceEnableSrqParms.xdr : Codec UInt8 DeviceEnableSrqParms :=
  ((lib.long false).on ⟨lid, fun o v => { o with lid := v }⟩)
  |>.seq ((lib.bool false).on ⟨enable, fun o v => { o with enable := v }⟩)
  |>.seq ((lib.bytes 40).on ⟨handle, fun o v => { o with handle := v }⟩)

/-- `xdr_Device_LockParms` -/
def DeviceLockParms.xdr : Codec UInt8 DeviceLockParms :=
  ((lib.long false).on ⟨lid, fun o v => { o with lid := v }⟩)
  |>.seq ((lib.long false).on ⟨flags, fun o v => { o with flags := v }⟩)
  |>.seq ((lib.uLong false).on ⟨lockTimeout, fun o v => { o with lockTimeout := v }⟩)

/-- The members of `Device_DocmdParms` that `XDR_INLINE` serves. -/
def DeviceDocmdParms.block (buf : Bool) : Codec UInt8 DeviceDocmdParms :=
  ((lib.uLong buf).on ⟨ioTimeout, fun o v => { o with ioTimeout := v }⟩)
  |>.seq ((lib.uLong buf).on ⟨lockTimeout, fun o v => { o with lockTimeout := v }⟩)
  |>.seq ((lib.long buf).on ⟨cmd, fun o v => { o with cmd := v }⟩)
  |>.seq ((lib.bool buf).on ⟨networkOrder, fun o v => { o with networkOrder := v }⟩)
  |>.seq ((lib.long buf).on ⟨datasize, fun o v => { o with datasize := v }⟩)

/-- `xdr_Device_DocmdParms` -/
def DeviceDocmdParms.xdr (buf : Bool) : Codec UInt8 DeviceDocmdParms :=
  ((lib.long false).on ⟨lid, fun o v => { o with lid := v }⟩)
  |>.seq ((lib.long false).on ⟨flags, fun o v => { o with flags := v }⟩)
  |>.seq (block lib buf)
  |>.seq ((lib.bytes anyLength).on ⟨dataIn, fun o v => { o with dataIn := v }⟩)

/-- `xdr_Device_DocmdResp` -/
def DeviceDocmdResp.xdr : Codec UInt8 DeviceDocmdResp :=
  ((lib.long false).on ⟨error, fun o v => { o with error := v }⟩)
  |>.seq ((lib.bytes anyLength).on ⟨dataOut, fun o v => { o with dataOut := v }⟩)

/-- `xdr_Device_SrqParms` -/
def DeviceSrqParms.xdr : Codec UInt8 DeviceSrqParms :=
  (lib.bytes anyLength).on ⟨handle, fun o v => { o with handle := v }⟩

end

/-! ## What the messages carry -/

def DeviceError.Fits (o : DeviceError) : Prop :=
  FitsLong o.error

def CreateLinkParms.Fits (o : CreateLinkParms) : Prop :=
  FitsLong o.clientId ∧ IsBool o.lockDevice ∧ FitsULong o.lockTimeout ∧ FitsString anyLength o.device

def CreateLinkParms.BlockFits (o : CreateLinkParms) : Prop :=
  FitsLong o.clientId ∧ IsBool o.lockDevice ∧ FitsULong o.lockTimeout

def CreateLinkResp.Fits (o : CreateLinkResp) : Prop :=
  FitsLong o.error ∧ FitsLong o.lid ∧ FitsULong o.maxRecvSize

def DeviceWriteParms.Fits (o : DeviceWriteParms) : Prop :=
  FitsLong o.lid ∧ FitsULong o.ioTimeout ∧ FitsULong o.lockTimeout ∧ FitsLong o.flags ∧
  FitsBytes anyLength o.data

def DeviceWriteResp.Fits (o : DeviceWriteResp) : Prop :=
  FitsLong o.error ∧ FitsULong o.size

def DeviceReadParms.Fits (o : DeviceReadParms) : Prop :=
  FitsLong o.lid ∧ FitsULong o.requestSize ∧ FitsULong o.ioTimeout ∧ FitsULong o.lockTimeout ∧
  FitsLong o.flags

def DeviceReadParms.BlockFits (o : DeviceReadParms) : Prop :=
  FitsULong o.requestSize ∧ FitsULong o.ioTimeout ∧ FitsULong o.lockTimeout

def DeviceReadResp.Fits (o : DeviceReadResp) : Prop :=
  FitsLong o.error ∧ FitsLong o.reason ∧ FitsBytes anyLength o.data

def DeviceReadStbResp.Fits (o : DeviceReadStbResp) : Prop :=
  FitsLong o.error

def DeviceGenericParms.Fits (o : DeviceGenericParms) : Prop :=
  FitsLong o.lid ∧ FitsLong o.flags ∧ FitsULong o.lockTimeout ∧ FitsULong o.ioTimeout

def DeviceRemoteFunc.Fits (o : DeviceRemoteFunc) : Prop :=
  FitsULong o.hostAddr ∧ FitsULong o.hostPort ∧ FitsULong o.progNum ∧ FitsULong o.progVers

def DeviceRemoteFunc.BlockFits (o : DeviceRemoteFunc) : Prop :=
  FitsULong o.hostAddr ∧ FitsULong o.hostPort ∧ FitsULong o.progNum ∧ FitsULong o.progVers

def DeviceEnableSrqParms.Fits (o : DeviceEnableSrqParms) : Prop :=
  FitsLong o.lid ∧ IsBool o.enable ∧ FitsBytes 40 o.handle

def DeviceLockParms.Fits (o : DeviceLockParms) : Prop :=
  FitsLong o.lid ∧ FitsLong o.flags ∧ FitsULong o.lockTimeout

def DeviceDocmdParms.Fits (o : DeviceDocmdParms) : Prop :=
  FitsLong o.lid ∧ FitsLong o.flags ∧ FitsULong o.ioTimeout ∧ FitsULong o.lockTimeout ∧
  FitsLong o.cmd ∧ IsBool o.networkOrder ∧ FitsLong o.datasize ∧ FitsBytes anyLength o.dataIn

def DeviceDocmdParms.BlockFits (o : DeviceDocmdParms) : Prop :=
  FitsULong o.ioTimeout ∧ FitsULong o.lockTimeout ∧ FitsLong o.cmd ∧ IsBool o.networkOrder ∧
  FitsLong o.datasize

def DeviceDocmdResp.Fits (o : DeviceDocmdResp) : Prop :=
  FitsLong o.error ∧ FitsBytes anyLength o.dataOut

def DeviceSrqParms.Fits (o : DeviceSrqParms) : Prop :=
  FitsBytes anyLength o.handle

/-! ## Members in order -/

section
variable {lib : Filters}

theorem DeviceError.comes_in (hlib : lib.Lawful) :
    Codec.RoundTrip (xdr lib) (xdr lib) Fits cleared := by
  refine .mono (Codec.Carries.roundTrip ((hlib.long false false).carries.on _) ?_ fun _ => rfl) fun a h => ?_
  · simp [cleared]
  · simpa only [Fits, and_assoc] using h

theorem CreateLinkParms.block_carries (hlib : lib.Lawful) (buf buf' : Bool) :
    Codec.Carries (block lib buf) (block lib buf') BlockFits
      (fun o => (o.clientId = 0 ∧ o.lockDevice = 0) ∧ o.lockTimeout = 0)
      (fun a o =>
        { o with clientId := a.clientId, lockDevice := a.lockDevice, lockTimeout := a.lockTimeout }) := by
  refine .mono ((hlib.long buf buf').carries.on _
    |>.andOn (fun _ _ => rfl) (hlib.bool buf buf')
    |>.andOn (fun _ _ => rfl) (hlib.uLong buf buf')) fun a h => ?_
  simpa only [BlockFits, and_assoc] using h

theorem CreateLinkParms.comes_in (hlib : lib.Lawful) (buf buf' : Bool) :
    Codec.RoundTrip (xdr lib buf) (xdr lib buf') Fits cleared := by
  refine .mono (Codec.Carries.roundTrip (block_carries hlib buf buf'
    |>.andOn (fun _ _ => rfl) (hlib.string _)) ?_ fun _ => rfl) fun a h => ?_
  · simp [cleared]
  · simpa only [Fits, BlockFits, and_assoc] using h

theorem CreateLinkResp.comes_in (hlib : lib.Lawful) :
    Codec.RoundTrip (xdr lib) (xdr lib) Fits cleared := by
  refine .mono (Codec.Carries.roundTrip ((hlib.long false false).carries.on _
    |>.andOn (fun _ _ => rfl) (hlib.long false false)
    |>.andOn (fun _ _ => rfl) hlib.uShort
    |>.andOn (fun _ _ => rfl) (hlib.uLong false false)) ?_ fun _ => rfl) fun a h => ?_
  · simp [cleared]
  · simpa only [Fits, and_assoc, and_true] using h

theorem DeviceWriteParms.comes_in (hlib : lib.Lawful) :
    Codec.RoundTrip (xdr lib) (xdr lib) Fits cleared := by
  refine .mono (Codec.Carries.roundTrip ((hlib.long false false).carries.on _
    |>.andOn (fun _ _ => rfl) (hlib.uLong false false)
    |>.andOn (fun _ _ => rfl) (hlib.uLong false false)
    |>.andOn (fun _ _ => rfl) (hlib.long false false)
    |>.andOn (fun _ _ => rfl) (hlib.bytes _)) ?_ fun _ => rfl) fun a h => ?_
  · simp [cleared]
  · simpa only [Fits, and_assoc] using h

theorem DeviceWriteResp.comes_in (hlib : lib.Lawful) :
    Codec.RoundTrip (xdr lib) (xdr lib) Fits cleared := by
  refine .mono (Codec.Carries.roundTrip ((hlib.long false false).carries.on _
    |>.andOn (fun _ _ => rfl) (hlib.uLong false false)) ?_ fun _ => rfl) fun a h => ?_
  · simp [cleared]
  · simpa only [Fits, and_assoc] using h

theorem DeviceReadParms.block_carries (hlib : lib.Lawful) (buf buf' : Bool) :
    Codec.Carries (block lib buf) (block lib buf') BlockFits
      (fun o => (o.requestSize = 0 ∧ o.ioTimeout = 0) ∧ o.lockTimeout = 0)
      (fun a o =>
        { o with requestSize := a.requestSize, ioTimeout := a.ioTimeout, lockTimeout := a.lockTimeout }) := by
  refine .mono ((hlib.uLong buf buf').carries.on _
    |>.andOn (fun _ _ => rfl) (hlib.uLong buf buf')
    |>.andOn (fun _ _ => rfl) (hlib.uLong buf buf')) fun a h => ?_
  simpa only [BlockFits, and_assoc] using h

theorem DeviceReadParms.comes_in (hlib : lib.Lawful) (buf buf' : Bool) :
    Codec.RoundTrip (xdr lib buf) (xdr lib buf') Fits cleared := by
  refine .mono (Codec.Carries.roundTrip ((hlib.long false false).carries.on _
    |>.seq (block_carries hlib buf buf') (fun _ _ h => h)
    |>.andOn (fun _ _ => rfl) (hlib.long false false)
    |>.andOn (fun _ _ => rfl) hlib.char) ?_ fun _ => rfl) fun a h => ?_
  · simp [cleared]
  · simpa only [Fits, BlockFits, and_assoc, and_true] using h

theorem DeviceReadResp.comes_in (hlib : lib.Lawful) :
    Codec.RoundTrip (xdr lib) (xdr lib) Fits cleared := by
  refine .mono (Codec.Carries.roundTrip ((hlib.long false false).carries.on _
    |>.andOn (fun _ _ => rfl) (hlib.long false false)
    |>.andOn (fun _ _ => rfl) (hlib.bytes _)) ?_ fun _ => rfl) fun a h => ?_
  · simp [cleared]
  · simpa only [Fits, and_assoc] using h

theorem DeviceReadStbResp.comes_in (hlib : lib.Lawful) :
    Codec.RoundTrip (xdr lib) (xdr lib) Fits cleared := by
  refine .mono (Codec.Carries.roundTrip ((hlib.long false false).carries.on _
    |>.andOn (fun _ _ => rfl) hlib.uChar) ?_ fun _ => rfl) fun a h => ?_
  · simp [cleared]
  · simpa only [Fits, and_assoc, and_true] using h

theorem DeviceGenericParms.comes_in (hlib : lib.Lawful) :
    Codec.RoundTrip (xdr lib) (xdr lib) Fits cleared := by
  refine .mono (Codec.Carries.roundTrip ((hlib.long false false).carries.on _
    |>.andOn (fun _ _ => rfl) (hlib.long false false)
    |>.andOn (fun _ _ => rfl) (hlib.uLong false false)
    |>.andOn (fun _ _ => rfl) (hlib.uLong false false)) ?_ fun _ => rfl) fun a h => ?_
  · simp [cleared]
  · simpa only [Fits, and_assoc] using h

theorem DeviceRemoteFunc.block_carries (hlib : lib.Lawful) (buf buf' : Bool) :
    Codec.Carries (block lib buf) (block lib buf') BlockFits
      (fun o => ((o.hostAddr = 0 ∧ o.hostPort = 0) ∧ o.progNum = 0) ∧ o.progVers = 0)
      (fun a o =>
        { o with
          hostAddr := a.hostAddr, hostPort := a.hostPort, progNum := a.progNum, progVers := a.progVers }) := by
  refine .mono ((hlib.uLong buf buf').carries.on _
    |>.andOn (fun _ _ => rfl) (hlib.uLong buf buf')
    |>.andOn (fun _ _ => rfl) (hlib.uLong buf buf')
    |>.andOn (fun _ _ => rfl) (hlib.uLong buf buf')) fun a h => ?_
  simpa only [BlockFits, and_assoc] using h

theorem DeviceRemoteFunc.comes_in (hlib : lib.Lawful) (buf buf' : Bool) :
    Codec.RoundTrip (xdr lib buf) (xdr lib buf') Fits cleared := by
  refine .mono (Codec.Carries.roundTrip (block_carries hlib buf buf'
    |>.andOn (fun _ _ => rfl) hlib.enum) ?_ fun _ => rfl) fun a h => ?_
  · simp [cleared]
  · simpa only [Fits, BlockFits, and_assoc, and_true] using h

theorem DeviceEnableSrqParms.comes_in (hlib : lib.Lawful) :
    Codec.RoundTrip (xdr lib) (xdr lib) Fits cleared := by
  refine .mono (Codec.Carries.roundTrip ((hlib.long false false).carries.on _
    |>.andOn (fun _ _ => rfl) (hlib.bool false false)
    |>.andOn (fun _ _ => rfl) (hlib.bytes _)) ?_ fun _ => rfl) fun a h => ?_
  · simp [cleared]
  · simpa only [Fits, and_assoc] using h

theorem DeviceLockParms.comes_in (hlib : lib.Lawful) :
    Codec.RoundTrip (xdr lib) (xdr lib) Fits cleared := by
  refine .mono (Codec.Carries.roundTrip ((hlib.long false false).carries.on _
    |>.andOn (fun _ _ => rfl) (hlib.long false false)
    |>.andOn (fun _ _ => rfl) (hlib.uLong false false)) ?_ fun _ => rfl) fun a h => ?_
  · simp [cleared]
  · simpa only [Fits, and_assoc] using h

theorem DeviceDocmdParms.block_carries (hlib : lib.Lawful) (buf buf' : Bool) :
    Codec.Carries (block lib buf) (block lib buf') BlockFits
      (fun o => (((o.ioTimeout = 0 ∧ o.lockTimeout = 0) ∧ o.cmd = 0) ∧ o.networkOrder = 0) ∧ o.datasize = 0)
      (fun a o =>
        { o with
          ioTimeout := a.ioTimeout, lockTimeout := a.lockTimeout, cmd := a.cmd
          networkOrder := a.networkOrder, datasize := a.datasize }) := by
  refine .mono ((hlib.uLong buf buf').carries.on _
    |>.andOn (fun _ _ => rfl) (hlib.uLong buf buf')
    |>.andOn (fun _ _ => rfl) (hlib.long buf buf')
    |>.andOn (fun _ _ => rfl) (hlib.bool buf buf')
    |>.andOn (fun _ _ => rfl) (hlib.long buf buf')) fun a h => ?_
  simpa only [BlockFits, and_assoc] using h

theorem DeviceDocmdParms.comes_in (hlib : lib.Lawful) (buf buf' : Bool) :
    Codec.RoundTrip (xdr lib buf) (xdr lib buf') Fits cleared := by
  refine .mono (Codec.Carries.roundTrip ((hlib.long false false).carries.on _
    |>.andOn (fun _ _ => rfl) (hlib.long false false)
    |>.seq (block_carries hlib buf buf') (fun _ _ h => h)
    |>.andOn (fun _ _ => rfl) (hlib.bytes _)) ?_ fun _ => rfl) fun a h => ?_
  · simp [cleared]
  · simpa only [Fits, BlockFits, and_assoc] using h

theorem DeviceDocmdResp.comes_in (hlib : lib.Lawful) :
    Codec.RoundTrip (xdr lib) (xdr lib) Fits cleared := by
  refine .mono (Codec.Carries.roundTrip ((hlib.long false false).carries.on _
    |>.andOn (fun _ _ => rfl) (hlib.bytes _)) ?_ fun _ => rfl) fun a h => ?_
  · simp [cleared]
  · simpa only [Fits, and_assoc] using h

theorem DeviceSrqParms.comes_in (hlib : lib.Lawful) :
    Codec.RoundTrip (xdr lib) (xdr lib) Fits cleared := by
  refine .mono (Codec.Carries.roundTrip ((hlib.bytes _).carries.on _) ?_ fun _ => rfl) fun a h => ?_
  · simp [cleared]
  · simpa only [Fits, and_assoc] using h

end

/-! ## The messages -/

/-- The types that are sent. -/
inductive Message
  | deviceLink
  | deviceError
  | createLinkParms
  | createLinkResp
  | deviceWriteParms
  | deviceWriteResp
  | deviceReadParms
  | deviceReadResp
  | deviceReadStbResp
  | deviceGenericParms
  | deviceRemoteFunc
  | deviceEnableSrqParms
  | deviceLockParms
  | deviceDocmdParms
  | deviceDocmdResp
  | deviceSrqParms
  | void
  deriving DecidableEq, Repr

namespace Message

/-- `Device_Link` is a `long`. -/
@[reducible] def Object : Message → Type
  | deviceLink => Int
  | deviceError => DeviceError
  | createLinkParms => CreateLinkParms
  | createLinkResp => CreateLinkResp
  | deviceWriteParms => DeviceWriteParms
  | deviceWriteResp => DeviceWriteResp
  | deviceReadParms => DeviceReadParms
  | deviceReadResp => DeviceReadResp
  | deviceReadStbResp => DeviceReadStbResp
  | deviceGenericParms => DeviceGenericParms
  | deviceRemoteFunc => DeviceRemoteFunc
  | deviceEnableSrqParms => DeviceEnableSrqParms
  | deviceLockParms => DeviceLockParms
  | deviceDocmdParms => DeviceDocmdParms
  | deviceDocmdResp => DeviceDocmdResp
  | deviceSrqParms => DeviceSrqParms
  | void => Unit

/-- `buf`: `XDR_INLINE` gives a buffer. -/
def xdr (lib : Filters) (buf : Bool) : (m : Message) → Codec UInt8 m.Object
  | deviceLink => lib.long false
  | deviceError => DeviceError.xdr lib
  | createLinkParms => CreateLinkParms.xdr lib buf
  | createLinkResp => CreateLinkResp.xdr lib
  | deviceWriteParms => DeviceWriteParms.xdr lib
  | deviceWriteResp => DeviceWriteResp.xdr lib
  | deviceReadParms => DeviceReadParms.xdr lib buf
  | deviceReadResp => DeviceReadResp.xdr lib
  | deviceReadStbResp => DeviceReadStbResp.xdr lib
  | deviceGenericParms => DeviceGenericParms.xdr lib
  | deviceRemoteFunc => DeviceRemoteFunc.xdr lib buf
  | deviceEnableSrqParms => DeviceEnableSrqParms.xdr lib
  | deviceLockParms => DeviceLockParms.xdr lib
  | deviceDocmdParms => DeviceDocmdParms.xdr lib buf
  | deviceDocmdResp => DeviceDocmdResp.xdr lib
  | deviceSrqParms => DeviceSrqParms.xdr lib
  | void => Codec.nothing

def Fits : (m : Message) → m.Object → Prop
  | deviceLink => FitsLong
  | deviceError => DeviceError.Fits
  | createLinkParms => CreateLinkParms.Fits
  | createLinkResp => CreateLinkResp.Fits
  | deviceWriteParms => DeviceWriteParms.Fits
  | deviceWriteResp => DeviceWriteResp.Fits
  | deviceReadParms => DeviceReadParms.Fits
  | deviceReadResp => DeviceReadResp.Fits
  | deviceReadStbResp => DeviceReadStbResp.Fits
  | deviceGenericParms => DeviceGenericParms.Fits
  | deviceRemoteFunc => DeviceRemoteFunc.Fits
  | deviceEnableSrqParms => DeviceEnableSrqParms.Fits
  | deviceLockParms => DeviceLockParms.Fits
  | deviceDocmdParms => DeviceDocmdParms.Fits
  | deviceDocmdResp => DeviceDocmdResp.Fits
  | deviceSrqParms => DeviceSrqParms.Fits
  | void => fun _ => True

/-- What is there before a message is taken. -/
def cleared : (m : Message) → m.Object
  | deviceLink => (0 : Int)
  | deviceError => DeviceError.cleared
  | createLinkParms => CreateLinkParms.cleared
  | createLinkResp => CreateLinkResp.cleared
  | deviceWriteParms => DeviceWriteParms.cleared
  | deviceWriteResp => DeviceWriteResp.cleared
  | deviceReadParms => DeviceReadParms.cleared
  | deviceReadResp => DeviceReadResp.cleared
  | deviceReadStbResp => DeviceReadStbResp.cleared
  | deviceGenericParms => DeviceGenericParms.cleared
  | deviceRemoteFunc => DeviceRemoteFunc.cleared
  | deviceEnableSrqParms => DeviceEnableSrqParms.cleared
  | deviceLockParms => DeviceLockParms.cleared
  | deviceDocmdParms => DeviceDocmdParms.cleared
  | deviceDocmdResp => DeviceDocmdResp.cleared
  | deviceSrqParms => DeviceSrqParms.cleared
  | void => ()

/-- A request of `create_link`, for the device "gpib0". -/
example : (createLinkParms.xdr bigEndian true).encode ⟨7, 0, 1, [103, 112, 105, 98, 48]⟩ =
    some [0, 0, 0, 7, 0, 0, 0, 0, 0, 0, 0, 1, 0, 0, 0, 5, 103, 112, 105, 98, 48, 0, 0, 0] := by
  decide

end Message

end Rpc
end Vxi11
end AsynDriver
