/-
# The parts of `ActComputedResult`

What a computation leaves in the project (`common/act_computed_result.hpp`,
`common/routing/act_routing_result.hpp`, `common/gcl/`): the routing of every
stream, the gate control lists of every device and the times of every stream on
its way.  Of each class the fields stand here that some modelled function reads
or writes.  The result itself also holds the devices, the links and the traffic
design it was computed from, and stands with the project.
-/

import Mathlib.Data.Int.Notation
import Sebastian.Lib.QSet

namespace Sebastian

/-- `ActFrerTypeEnum` -/
inductive FrerType where
  | undefined
  | split
  | merge
  | forward
  deriving DecidableEq, Inhabited

/-- `ActRedundantPath` -/
structure RedundantPath where
  linkIds : List ℤ := []
  deviceIds : List ℤ := []
  vlanId : UInt16 := 0
  deriving DecidableEq

/-- `ActRoutingPath` -/
structure RoutingPath where
  talkerIpAddress : String := ""
  listenerIpAddress : String := ""
  redundantPaths : List RedundantPath := []
  deriving DecidableEq

/-- `ActRoutingResult` -/
structure RoutingResult where
  streamName : String := ""
  streamId : ℤ := -1
  vlanId : UInt16 := 0
  priorityCodePoint : UInt8 := 0
  queueId : UInt8 := 0
  cb : Bool := false
  multicast : Bool := false
  routingPaths : List RoutingPath := []

instance : BEq RoutingResult := ⟨fun x y => x.streamId == y.streamId⟩

/-- `ActStreamDeviceInterfaceResult`.  Times are `quint32`. -/
structure StreamDeviceInterfaceResult where
  deviceId : ℤ := -1
  ingressInterfaceId : ℤ := 0
  egressInterfaceId : ℤ := 0
  priorityCodePoint : UInt8 := 0
  startTime : UInt32 := 0
  stopTime : UInt32 := 0
  accumulatedLatency : UInt32 := 0
  streamDuration : UInt32 := 0
  vlanId : UInt16 := 0
  frerType : FrerType := .undefined
  deriving DecidableEq

/-- `ActStreamRedundantPathResult` -/
structure StreamRedundantPathResult where
  deviceInterfaceResults : List StreamDeviceInterfaceResult := []
  deriving DecidableEq

/-- `ActStreamPathResult` -/
structure StreamPathResult where
  streamRedundantPathResults : List StreamRedundantPathResult := []
  deriving DecidableEq

/-- `ActStreamViewResult` -/
structure StreamViewResult where
  streamId : ℤ := -1
  streamName : String := ""
  streamTrafficType : String := ""
  interval : ℤ := 0
  streamPathResults : List StreamPathResult := []

instance : BEq StreamViewResult := ⟨fun x y => x.streamId == y.streamId⟩

/-- `ActGateControl` -/
structure GateControl where
  startTime : ℤ := 0
  stopTime : ℤ := 0
  gateStatesValue : UInt8 := 0
  deriving DecidableEq, Inhabited

/-- `ActInterfaceGateControls` -/
structure InterfaceGateControls where
  interfaceId : ℤ
  interfaceName : String
  gateControls : List GateControl := []
  deriving DecidableEq

/-- `ActGclResult` -/
structure GclResult where
  deviceId : ℤ := -1
  deviceIp : String := ""
  interfaceGateControls : List InterfaceGateControls := []
  deriving DecidableEq

end Sebastian
