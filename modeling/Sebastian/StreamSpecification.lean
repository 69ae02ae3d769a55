/-
# What a stream is specified by

The parts of `ActStream` (`common/stream/*.hpp`): how its frames are addressed, what its talker
sends and what its listeners ask for.  Offsets, latencies and jitters are nanoseconds.  The
fields are those that some modelled function reads or writes, with the defaults of the
constructors.
-/

import Mathlib.Data.Rat.Defs

namespace Sebastian

/-- `ActStreamUntaggedModeEnum` -/
inductive StreamUntaggedMode where
  | pvid
  | perStreamPriority
  deriving DecidableEq

/-- `ActStreamTrafficTypeEnum` -/
inductive StreamTrafficType where
  | na
  | bestEffort
  | cyclic
  | timeSync
  deriving DecidableEq

/-- `ActStreamStatusEnum` -/
inductive StreamStatus where
  | planned
  | scheduled
  | modified
  deriving DecidableEq

/-- `ActQosTypeEnum` -/
inductive QosType where
  | bandwidth
  | boundedLatency
  | deadline
  deriving DecidableEq

/-- `ActStreamId` -/
structure StreamId where
  macAddress : String := ""
  uniqueId : UInt16 := 0
  deriving DecidableEq

/-- `ActFieldTypeEnum` -/
inductive FieldType where
  | ieee802MacAddresses
  | ieee802VlanTag
  deriving DecidableEq

/-- `ActIeee802MacAddresses` -/
structure Ieee802MacAddresses where
  sourceMacAddress : String := ""
  destinationMacAddress : String := ""
  deriving DecidableEq

/-- `ActIeee802VlanTag` -/
structure Ieee802VlanTag where
  vlanId : UInt16 := 0
  priorityCodePoint : UInt8 := 0
  deriving DecidableEq

/-- `ActDataFrameSpecification`: the type tells which of the two fields counts. -/
structure DataFrameSpecification where
  type : FieldType := .ieee802MacAddresses
  ieee802MacAddresses : Ieee802MacAddresses := {}
  ieee802VlanTag : Ieee802VlanTag := {}
  deriving DecidableEq

/-- `ActTimeAware` -/
structure TimeAware where
  earliestTransmitOffset : UInt32 := 0
  latestTransmitOffset : UInt32 := 999999999
  jitter : UInt32 := 0
  deriving DecidableEq

/-- `ActInterval`, in seconds. -/
structure Interval where
  numerator : UInt32 := 30000
  denominator : UInt32 := 1000000000
  deriving DecidableEq

/-- `ActTrafficSpecification` -/
structure TrafficSpecification where
  maxFrameSize : UInt32 := 46
  maxFramesPerInterval : UInt32 := 1
  interval : Interval := {}
  timeAware : TimeAware := {}
  maxBytesPerInterval : UInt32 := 0
  deriving DecidableEq

/-- `ActUserToNetworkRequirement`.  The largest receive offset is given as 999999.999 and cut
to a whole number. -/
structure UserToNetworkRequirement where
  maxLatency : UInt32 := 1000
  minReceiveOffset : UInt32 := 1
  maxReceiveOffset : UInt32 := 999999
  deriving DecidableEq

end Sebastian
