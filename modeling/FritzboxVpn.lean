import FritzboxVpn.OrderedDict
import FritzboxVpn.Text
import FritzboxVpn.Exceptions
import FritzboxVpn.JsonValue
import FritzboxVpn.KeyMatching
import FritzboxVpn.KeyedWrites
import FritzboxVpn.Constants
import FritzboxVpn.UidIdentity
import FritzboxVpn.UniqueIdCodec
import FritzboxVpn.HomeAssistant
import FritzboxVpn.MemoryRegistry
import FritzboxVpn.UidRemap
import FritzboxVpn.RemapWrites
import FritzboxVpn.RemapAtomicity
import FritzboxVpn.RefusedRemaps
import FritzboxVpn.RemapClaim
import FritzboxVpn.Runs
import FritzboxVpn.Coordinator
import FritzboxVpn.CoordinatorSteps
import FritzboxVpn.RecoveryCap
import FritzboxVpn.Entity
import FritzboxVpn.AliasSafety
import FritzboxVpn.OrphanTracking
import FritzboxVpn.OutageRemap
import FritzboxVpn.OutageHistory
import FritzboxVpn.DeletedConnections
import FritzboxVpn.StaggeredLists
import FritzboxVpn.OutageRegistries
import FritzboxVpn.OutagePolls
import FritzboxVpn.OutageRounds
import FritzboxVpn.Services
import FritzboxVpn.PlatformSetup
import FritzboxVpn.Interaction
import FritzboxVpn.Parsing
import FritzboxVpn.Session
import FritzboxVpn.FetchErrors
import FritzboxVpn.FailedPolls
import FritzboxVpn.LoginFallback
import FritzboxVpn.Listings
import FritzboxVpn.ListingFallback
import FritzboxVpn.SessionRequests
import FritzboxVpn.Toggle
import FritzboxVpn.RetryCause
import FritzboxVpn.RejectedLogins
import FritzboxVpn.RecoveryWindow
import FritzboxVpn.RemovalReports
import FritzboxVpn.SeveralBoxes
import FritzboxVpn.RegistryRows
import FritzboxVpn.EntityIds
import FritzboxVpn.EntityRepairs
import FritzboxVpn.EmptyDevices
import FritzboxVpn.SetupRepair
import FritzboxVpn.RepairPlans
import FritzboxVpn.RepairPasses
import FritzboxVpn.Replacements
import FritzboxVpn.RepairMoves
import FritzboxVpn.RepairConvergence
import FritzboxVpn.NameBijection
import FritzboxVpn.CodecLaw
import FritzboxVpn.SuffixSafety
import FritzboxVpn.Orphans
import FritzboxVpn.MergeSafety
import FritzboxVpn.RenameLog
import FritzboxVpn.RepairOffer
import FritzboxVpn.Migration
import FritzboxVpn.OrphanCleanup
import FritzboxVpn.CorrectIds
import FritzboxVpn.FailedReplacements
import FritzboxVpn.FailedRepairs
import FritzboxVpn.Tasks
import FritzboxVpn.SessionTasks
import FritzboxVpn.Pools
import FritzboxVpn.LoginRace
import FritzboxVpn.Chains
import FritzboxVpn.AliasResolution
import FritzboxVpn.Normalisation
import FritzboxVpn.EntityStates
import FritzboxVpn.ListingPlaces
import FritzboxVpn.ListingPaths
import FritzboxVpn.PayloadShape
import FritzboxVpn.IpAddress
import FritzboxVpn.Uri
import FritzboxVpn.HostValidation
import FritzboxVpn.UpdateInterval
import FritzboxVpn.ToggleRejection
import FritzboxVpn.Notes
import FritzboxVpn.BlockTime
import FritzboxVpn.HealthyBox
import FritzboxVpn.SelfHealing
import FritzboxVpn.Costs
import FritzboxVpn.RequestBudget
import FritzboxVpn.Channels
import FritzboxVpn.FritzconnectionSession
import FritzboxVpn.AdapterRefinement
import FritzboxVpn.AdapterClients
import FritzboxVpn.AdapterErrors
import FritzboxVpn.SharedInvariants
import FritzboxVpn.ConfigEntries
import FritzboxVpn.MemoryEntries
import FritzboxVpn.FlowForms
import FritzboxVpn.FritzConfigSource
import FritzboxVpn.UrlSplit
import FritzboxVpn.Uuid
import FritzboxVpn.SsdpUniqueId
import FritzboxVpn.ConfigFlow
import FritzboxVpn.OptionsMenu
import FritzboxVpn.OptionsFlow
import FritzboxVpn.FlowRuns
import FritzboxVpn.FlowSteps
import FritzboxVpn.StoredLogins
import FritzboxVpn.FlowSafety
import FritzboxVpn.DiscoveredDevices
import FritzboxVpn.MaintenanceCalls
import FritzboxVpn.MaintenanceSafety
import FritzboxVpn.ReauthCycles
import FritzboxVpn.KeyedAmendments
import FritzboxVpn.RegistryConservation
import FritzboxVpn.AliasMoves
import FritzboxVpn.LiveEntities
import FritzboxVpn.SessionIds
