import Mathlib.Data.List.Basic

/-!
# The card configs the node daemon reads

The `sriovfec.intel.com/v2` types `bbdevconfig.go` reads: the ACC100 and N3000 variants of
a `BBDevConfig`, the physical function it is applied to and the accelerator it sits on.
A Go `int` is a 64-bit two's complement word, `BitVec 64`.

## Implementation notes

The v2 types are not part of the repository's files. Each keeps the fields the daemon
reads; `UplinkDownlinkQueues.String` is modelled from the spec, which renders the eight
queue counts as one delimited string.
-/

namespace SriovFec.Api.V2

/-- `strconv.Itoa`: the signed decimal text of a Go `int`. -/
def itoa (x : BitVec 64) : String := toString x.toInt

/-- The queue groups of one of the four ACC100 directions. -/
structure QueueGroupConfig where
  numQueueGroups : BitVec 64
  numAqsPerGroups : BitVec 64
  aqDepthLog2 : BitVec 64
  deriving DecidableEq, Repr

structure ACC100BBDevConfig where
  pfMode : Bool
  numVfBundles : BitVec 64
  maxQueueSize : BitVec 64
  uplink4G : QueueGroupConfig
  downlink4G : QueueGroupConfig
  uplink5G : QueueGroupConfig
  downlink5G : QueueGroupConfig
  deriving DecidableEq, Repr

/-- The eight virtual-function queue counts of one N3000 direction. -/
structure UplinkDownlinkQueues where
  vf0 : BitVec 64
  vf1 : BitVec 64
  vf2 : BitVec 64
  vf3 : BitVec 64
  vf4 : BitVec 64
  vf5 : BitVec 64
  vf6 : BitVec 64
  vf7 : BitVec 64
  deriving DecidableEq, Repr

/-- Modelled from the spec: the queue map as one comma-delimited string. -/
def UplinkDownlinkQueues.string (q : UplinkDownlinkQueues) : String :=
  ",".intercalate ([q.vf0, q.vf1, q.vf2, q.vf3, q.vf4, q.vf5, q.vf6, q.vf7].map itoa)

structure UplinkDownlink where
  bandwidth : BitVec 64
  loadBalance : BitVec 64
  queues : UplinkDownlinkQueues
  deriving DecidableEq, Repr

structure N3000BBDevConfig where
  pfMode : Bool
  flrTimeOut : BitVec 64
  downlink : UplinkDownlink
  uplink : UplinkDownlink
  deriving DecidableEq, Repr

/-- The two variants; a nil pointer is `none`. -/
structure BBDevConfig where
  n3000 : Option N3000BBDevConfig
  acc100 : Option ACC100BBDevConfig
  deriving DecidableEq, Repr

/-- The physical function of a card, as the daemon configures it. -/
structure PhysicalFunctionConfigExt where
  pciAddress : String
  pfDriver : String
  bbDevConfig : BBDevConfig
  deriving DecidableEq, Repr

/-- An accelerator found on the node. -/
structure SriovAccelerator where
  deviceID : String
  deriving DecidableEq, Repr

end SriovFec.Api.V2
