import OpsSwitchd.Keyed
import OpsSwitchd.Runs
import OpsSwitchd.EventRuns
import OpsSwitchd.HashOrder
import OpsSwitchd.Bystander
import OpsSwitchd.Rows
import OpsSwitchd.Ofproto
import OpsSwitchd.Bridge
import OpsSwitchd.Vlan
import OpsSwitchd.VlanSync
import OpsSwitchd.VlanRun
import OpsSwitchd.Vrf
import OpsSwitchd.Neighbor
import OpsSwitchd.Reconfigure
import OpsSwitchd.Port
import OpsSwitchd.PortIndex
import OpsSwitchd.PortDrops
import OpsSwitchd.PortPhases
import OpsSwitchd.PortAdd
import OpsSwitchd.Nexthops
import OpsSwitchd.RouteSpec
import OpsSwitchd.NeighborSpec
import OpsSwitchd.NeighborCalls
import OpsSwitchd.RouteCache
import OpsSwitchd.HwRoute
import OpsSwitchd.RouteLoops
import OpsSwitchd.RouteBatch
import OpsSwitchd.RouteMirror
import OpsSwitchd.VrfOps
import OpsSwitchd.PortFrames
import OpsSwitchd.Switch
import OpsSwitchd.PortConfigure
import OpsSwitchd.CreatedPorts
import OpsSwitchd.Subsystem
import OpsSwitchd.SubsystemTables
import OpsSwitchd.SubsystemReconfigure
import OpsSwitchd.SubsystemPublish
import OpsSwitchd.SubsystemRun
import OpsSwitchd.Writes
import OpsSwitchd.SubsystemStatus
import OpsSwitchd.Bufmon
import OpsSwitchd.BufmonList
import OpsSwitchd.BufmonRun
import OpsSwitchd.BufmonFollows
import OpsSwitchd.BufmonPairing
import OpsSwitchd.BufmonTrigger
import OpsSwitchd.HwOwned
import OpsSwitchd.NeighborCache
import OpsSwitchd.EgressRefresh
import OpsSwitchd.RouteMove
import OpsSwitchd.RouteFallback
import OpsSwitchd.NeighborRun
import OpsSwitchd.EgressRun
import OpsSwitchd.HostPorts
import OpsSwitchd.HostPortRun
import OpsSwitchd.NeighborIsolation
import OpsSwitchd.RouteRebuild
import OpsSwitchd.RouteIsolation
import OpsSwitchd.MacFlush
import OpsSwitchd.LevelRequests
import OpsSwitchd.MacFlushRequests
import OpsSwitchd.MacLearning
import OpsSwitchd.StatusUpdate
import OpsSwitchd.StableInsert
import OpsSwitchd.CallbackBlocks
import OpsSwitchd.Mirrors
import OpsSwitchd.Positional
import OpsSwitchd.MirrorPorts
import OpsSwitchd.MirrorErrors
import OpsSwitchd.FlowTables
import OpsSwitchd.Pathnames
import OpsSwitchd.Controllers
import OpsSwitchd.CText
import OpsSwitchd.PathnameCursors
import OpsSwitchd.SetColumn
import OpsSwitchd.SflowCollectors
import OpsSwitchd.SflowCollectorRun
import OpsSwitchd.SflowAgent
import OpsSwitchd.BondHandle
import OpsSwitchd.MacFlushSnapshot
import OpsSwitchd.Reconcile
import OpsSwitchd.OwnerSets
import OpsSwitchd.Slots
import OpsSwitchd.RequestSlots
import OpsSwitchd.NexthopErrors
import OpsSwitchd.NexthopTables
import OpsSwitchd.TablesRefine
import OpsSwitchd.NexthopRows
import OpsSwitchd.NeighborPush
import OpsSwitchd.EcmpSet
import OpsSwitchd.PortLessens
import OpsSwitchd.PortsSound
import OpsSwitchd.NeighborRecreate
import OpsSwitchd.NexthopCompare
import OpsSwitchd.RouteKeys
import OpsSwitchd.MacRelearn
import OpsSwitchd.PluginPhases
import OpsSwitchd.PluginTokens
import OpsSwitchd.CommandOutput
import OpsSwitchd.LocalHwAddr
import OpsSwitchd.TriggerLimit
import OpsSwitchd.NeighborHits
import OpsSwitchd.Handover
import OpsSwitchd.SystemStats
import OpsSwitchd.SnapshotOwnership
import OpsSwitchd.Periodic
import OpsSwitchd.MainLoop
import OpsSwitchd.SflowCommands
import OpsSwitchd.SflowConsistency
import OpsSwitchd.SflowAgreement
import OpsSwitchd.SflowIndependence
import OpsSwitchd.PortBundle
import OpsSwitchd.BundleRun
import OpsSwitchd.QuietRows
import OpsSwitchd.QuietRun
import OpsSwitchd.QuietSwitch
import OpsSwitchd.PortsCurrent
import OpsSwitchd.OwnerFrames
import OpsSwitchd.Settling
import OpsSwitchd.PluginBlocks
import OpsSwitchd.PluginProtocol
import OpsSwitchd.Ownership
import OpsSwitchd.OfprotoOwners
import OpsSwitchd.EcmpConfig
import OpsSwitchd.PluginLife
import OpsSwitchd.StatsBlocks
import OpsSwitchd.PluginExtensions
import OpsSwitchd.LockHandover
