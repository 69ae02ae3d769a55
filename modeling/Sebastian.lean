import Sebastian.Algorithm.LinkIsolation
import Sebastian.Algorithm.QueueIsolation
import Sebastian.Algorithm.Release
import Sebastian.Algorithm.GateListLength
import Sebastian.Core.SwiftConfig
import Sebastian.Topology.MappersAgree
import Sebastian.Core.Inventory
import Sebastian.Core.GroupForest
import Sebastian.Core.LinkMigration
import Sebastian.Core.LinkStreams
import Sebastian.Core.StreamCheck
import Sebastian.Core.MonitorScan
import Sebastian.Monitor.LifecycleRuns
import Sebastian.Monitor.CacheCoherence
import Sebastian.Monitor.SecondPass
import Sebastian.Monitor.MultiIndexCache
import Sebastian.Deploy.FarToNear
import Sebastian.Deploy.Accounts
import Sebastian.Intelligent.StationOrder
import Sebastian.Scan.BatchRuns
import Sebastian.Wsconn.Progress
import Sebastian.Intelligent.UpdateVlan
import Sebastian.Algorithm.Jitter
import Sebastian.Algorithm.Termination
import Sebastian.Core.SwiftPreference
import Sebastian.Core.BaselineActivation
import Sebastian.Core.BaselineUpdate
import Sebastian.Core.RstpGroups
import Sebastian.Topology.CompareTopology
import Sebastian.Topology.OfflineSources
import Sebastian.Topology.MapOrder
import Sebastian.Monitor.PortConflicts
import Sebastian.Core.DeviceCoordinates
import Sebastian.Core.DeviceConfigTables
import Sebastian.Core.LinkEvents
import Sebastian.Core.SfpReadings
import Sebastian.Scan.AddressRanges
import Sebastian.Scan.MacTableLinks
import Sebastian.Core.SwiftStatus
import Sebastian.Monitor.LinkNames
