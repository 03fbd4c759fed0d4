import Mathlib.Data.List.Basic

/-!
# The objects the cluster controller reads and writes

`SriovFecClusterConfig` and its parts are the `sriovfec.intel.com/v1` types of the
repository. A Go `int` is a 64-bit two's complement word, `BitVec 64`.

## Implementation notes

`SriovFecNodeConfig`, `TypeMeta`, `ObjectMeta` and the node of `corev1` are not part of
the repository's files; they keep the fields the controller sets, reads or copies. The
status of a node config is written only by the node agent: the controller copies it.
-/

namespace SriovFec.Api.V1

/-- `metav1.TypeMeta`. -/
structure TypeMeta where
  apiVersion : String
  kind : String
  deriving DecidableEq, Repr

/-- `metav1.ObjectMeta`: an object is stored under its namespace and name. -/
structure ObjectMeta where
  name : String
  «namespace» : String
  labels : List (String × String)
  annotations : List (String × String)
  deriving DecidableEq, Repr

/-- `types.NamespacedName`, the key of a namespaced object. -/
structure NamespacedName where
  «namespace» : String
  name : String
  deriving DecidableEq, Repr

/-- The eight virtual-function queue counts of one direction. -/
structure UplinkDownlinkQueues where
  vf0 : BitVec 64
  vf1 : BitVec 64
  vf2 : BitVec 64
  vf3 : BitVec 64
  vf4 : BitVec 64
  vf5 : BitVec 64
  vf6 : BitVec 64
  vf7 : BitVec 64
  deriving DecidableEq, Repr

structure UplinkDownlink where
  bandwidth : BitVec 64
  loadBalance : BitVec 64
  queues : UplinkDownlinkQueues
  deriving DecidableEq, Repr

structure BBDevConfig where
  networkType : String
  pfMode : Bool
  flrTimeOut : BitVec 64
  downlink : UplinkDownlink
  uplink : UplinkDownlink
  deriving DecidableEq, Repr

structure CardConfig where
  pciAddress : String
  vendorID : String
  pfDeviceID : String
  pfDriver : String
  vfDeviceID : String
  vfDriver : String
  vfAmount : BitVec 64
  bbDevConfig : BBDevConfig
  deriving DecidableEq, Repr

structure NodeConfig where
  nodeName : String
  oneCardConfigForAll : Bool
  cards : List CardConfig
  deriving DecidableEq, Repr

structure SriovFecClusterConfigSpec where
  oneNodeConfigForAll : Bool
  nodes : List NodeConfig
  deriving DecidableEq, Repr

structure SriovFecClusterConfigStatus where
  syncStatus : String
  lastSyncError : String
  deriving DecidableEq, Repr

structure SriovFecClusterConfig where
  typeMeta : TypeMeta
  objectMeta : ObjectMeta
  spec : SriovFecClusterConfigSpec
  status : SriovFecClusterConfigStatus
  deriving DecidableEq, Repr

structure SriovFecNodeConfigSpec where
  oneCardConfigForAll : Bool
  cards : List CardConfig
  deriving DecidableEq, Repr

/-- What the node agent reports; the controller never writes it. -/
structure SriovFecNodeConfigStatus where
  syncStatus : String
  lastSyncError : String
  deriving DecidableEq, Repr

structure SriovFecNodeConfig where
  typeMeta : TypeMeta
  objectMeta : ObjectMeta
  spec : SriovFecNodeConfigSpec
  status : SriovFecNodeConfigStatus
  deriving DecidableEq, Repr

/-- A `corev1.Node` as a label-selected list sees it. -/
structure Node where
  name : String
  labels : List (String × String)
  deriving DecidableEq, Repr

/-- The name a node config is stored and compared under (`GetName`). -/
def SriovFecNodeConfig.name (nc : SriovFecNodeConfig) : String := nc.objectMeta.name

end SriovFec.Api.V1
