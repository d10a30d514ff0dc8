import Segwire.Foundation.HashMap
import Segwire.Foundation.Descriptors
import Segwire.Foundation.Process
import Segwire.Foundation.ExclusiveTable
import Segwire.Foundation.Run
import Segwire.Foundation.Switch
import Segwire.Foundation.Task
import Segwire.Foundation.Interleaving
import Segwire.Foundation.ThreadPool
import Segwire.Foundation.Locks
import Segwire.Foundation.LockRuns
import Segwire.Foundation.Text
import Segwire.Foundation.Regex
import Segwire.Foundation.ByteOffset
import Segwire.Foundation.Lines
import Segwire.Foundation.Iteration
import Segwire.Foundation.Parts
import Segwire.Foundation.Except
import Segwire.Foundation.FileSystem
import Segwire.Foundation.DirectoryTree
import Segwire.Foundation.IpAddr
import Segwire.Foundation.IpAddrGrammar
import Segwire.Foundation.IpAddrSpelling
import Segwire.Foundation.IpAddrDisplay
import Segwire.Foundation.SocketAddr
import Segwire.Foundation.Base64
import Segwire.Foundation.LexicalPath
import Segwire.Foundation.Debounce
import Segwire.Common.Error
import Segwire.Common.Utils
import Segwire.Common.DomainNames
import Segwire.Common.AddressValidation
import Segwire.Common.EnvSubst
import Segwire.Common.EnvSubstPasses
import Segwire.Common.SubstitutionPasses
import Segwire.Common.SubstitutionLimit
import Segwire.Common.ReferenceOperators
import Segwire.Common.EnvironmentShield
import Segwire.Common.NestedTemplates
import Segwire.Common.Config
import Segwire.Common.DocumentedRules
import Segwire.Common.DuplicateReports
import Segwire.Common.ConfigLoading
import Segwire.Common.Wireguard
import Segwire.Common.WireguardSections
import Segwire.Common.WireguardLayout
import Segwire.Common.ConfigSubstitution
import Segwire.Common.Dbus
import Segwire.Common.Netlink
import Segwire.Netlink.GenericNetlink
import Segwire.Daemon.Host
import Segwire.Daemon.NetlinkManager
import Segwire.Daemon.ConfigManager
import Segwire.Daemon.ConfigWatcher
import Segwire.Daemon.DebouncedEvents
import Segwire.Daemon.ConfigRescan
import Segwire.Daemon.ScanOrder
import Segwire.Daemon.ConfigStore
import Segwire.Daemon.ChangeReports
import Segwire.Daemon.NamespaceState
import Segwire.Daemon.SystemNamespaces
import Segwire.Daemon.NamespaceSync
import Segwire.Daemon.SyncReports
import Segwire.Daemon.NetworkRequests
import Segwire.Daemon.PolicyKit
import Segwire.Daemon.DbusConfigFiles
import Segwire.Daemon.DbusService
import Segwire.Daemon.NamespaceHandlers
import Segwire.Daemon.DeleteRetries
import Segwire.Daemon.SecondChecks
import Segwire.Daemon.ImportedTunnels
import Segwire.Daemon.ResolvConf
import Segwire.Daemon.SimulatedLifecycle
import Segwire.Daemon.NetworkSettings
import Segwire.Daemon.RouteFamilies
import Segwire.Daemon.RouteListing
import Segwire.Daemon.NetlinkRaw
import Segwire.Daemon.CreationReports
import Segwire.Daemon.NetnsRaw
import Segwire.Daemon.NetnsThreads
import Segwire.Daemon.WireguardRaw
import Segwire.Daemon.CidrReadings
import Segwire.Daemon.UniqueNetworks
import Segwire.Daemon.Authorization
import Segwire.Daemon.EventLoop
import Segwire.Daemon.Startup
import Segwire.Daemon.StepInvariants
import Segwire.Daemon.ConfigReload
import Segwire.Daemon.Reconciliation
import Segwire.Daemon.SyncAccount
import Segwire.Daemon.SyncOrderings
import Segwire.Daemon.Convergence
import Segwire.Daemon.ConfigurationUpdates
import Segwire.Daemon.StatusAgreement
import Segwire.Daemon.Signals
import Segwire.Daemon.SyncSections
import Segwire.Daemon.SyncIdempotence
import Segwire.Daemon.SyncInterruptions
import Segwire.Daemon.PrefixedNames
import Segwire.Daemon.ExecPath
import Segwire.Daemon.PrefixOwnership
import Segwire.Daemon.ListedNames
import Segwire.Daemon.FullNames
import Segwire.Daemon.Shutdown
import Segwire.Daemon.LockedHandlers
import Segwire.Daemon.LockedThreads
import Segwire.Daemon.ThreadRuns
import Segwire.Daemon.ThreadEnds
import Segwire.Daemon.ExecHandout
import Segwire.Daemon.FileEventKinds
import Segwire.Daemon.DeleteExactness
import Segwire.Daemon.RestartAgreement
import Segwire.Daemon.RestartRecovery
import Segwire.Daemon.RequestSections
import Segwire.Daemon.RequestCalls
import Segwire.Daemon.SerialDeletions
import Segwire.Daemon.SerialCreations
import Segwire.Daemon.Serializability
import Segwire.Cli.Validate
import Segwire.Cli.ValidateCommand
import Segwire.Cli.ImportWg
import Segwire.Cli.Exec
import Segwire.Cli.ExecEntry
import Segwire.NsEnter.PathValidation
import Segwire.NsEnter.Arguments
import Segwire.NsEnter.PrivilegeDrop
