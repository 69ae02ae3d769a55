/-
# `ActSchedule`

`ComputeSchedule` (`algorithm/src/act_schedule.cpp`): the streams are scheduled
one after the other, each with its priority code points from the highest down,
until one succeeds.  Every attempt works on a copy of the schedule; the
configuration is shared by all of them.
-/

import Sebastian.Algorithm.ScheduleStream

namespace Sebastian
namespace Algorithm

/-- The priority code points of a stream in the order in which they are tried. -/
def pcpsOf (lib : Library) (stream : ScheduleConfigStream) : List UInt8 :=
  lib.sort (fun pcp => -(pcp.toNat : ℤ)) (lib.walk stream.pcps)

/-- The stream as `ComputeSchedule` sets it up for an attempt. -/
def attemptOf (config : ScheduleConfig) (streamId : ℤ) (pcp : UInt8) : ScheduleStream :=
  let stream := config.getScheduleConfigStream streamId
  .setScheduleStream streamId pcp pcp stream.earliestTransmitOffset stream.interval
    config.cycleTime

/-- `SetPriorityCodePoint` and `SetQueueId` of a scheduled stream. -/
def ScheduleConfig.assignPcp (config : ScheduleConfig) (streamId : ℤ) (pcp : UInt8) :
    ScheduleConfig :=
  { config with
    scheduleConfigStreams := config.scheduleConfigStreams.update streamId fun stream =>
      { stream with priorityCodePoint := pcp, queueId := pcp } }

/-- The loop over the priority code points of a stream. -/
def computePcps (lib : Library) (fuel : ℕ) (streamId : ℤ) :
    List UInt8 → Status → ScheduleConfig → ScheduleResult →
      Option (Status × ScheduleConfig × ScheduleResult)
  | [], status, config, result => some (status, config, result)
  | pcp :: pcps, _, config, result => do
    let (status, config, attempt) ←
      computeScheduleStream lib fuel (attemptOf config streamId pcp) config result
    if status.isSuccess then return (status, config.assignPcp streamId pcp, attempt)
    computePcps lib fuel streamId pcps status config result

/-- The loop over the streams. -/
def computeStreams (lib : Library) (fuel : ℕ) :
    List ℤ → Status → ScheduleConfig → ScheduleResult →
      Option (Status × ScheduleConfig × ScheduleResult)
  | [], status, config, result => some (status, config, result)
  | streamId :: streamIds, status, config, result => do
    let (status, config, result) ← computePcps lib fuel streamId
      (pcpsOf lib (config.getScheduleConfigStream streamId)) status config result
    if !status.isSuccess then return (status, config, result)
    computeStreams lib fuel streamIds status config result

/-- `ComputeSchedule`: the status, and the configuration and the schedule it leaves. -/
def computeSchedule (lib : Library) (fuel : ℕ) (config : ScheduleConfig) :
    Option (Status × ScheduleConfig × ScheduleResult) := do
  let streamIds ← config.sortScheduleConfigStreams lib
  computeStreams lib fuel streamIds .success config ∅

end Algorithm
end Sebastian
