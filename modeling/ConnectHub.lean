import ConnectHub.CapacityBound
import ConnectHub.NameClaims
import ConnectHub.ProvisioningLifecycle
import ConnectHub.LeaseResidue
import ConnectHub.InventorySnapshot
import ConnectHub.ChangeLifecycle
import ConnectHub.BatchExpiry
import ConnectHub.KeyRotation
import ConnectHub.EndpointInvariant
import ConnectHub.LinkInvariant
import ConnectHub.RelayDelivery
import ConnectHub.Retirement
import ConnectHub.UnresolvedDeliveries
import ConnectHub.OccupancyConflicts
import ConnectHub.RelayRewrites
import ConnectHub.RelayRecovery
import ConnectHub.Compensation
import ConnectHub.CandidatePayload
import ConnectHub.DraftText
import ConnectHub.MediaInspection
import ConnectHub.PreparedMedia
import ConnectHub.MediaSource
import ConnectHub.RelayOrigin
import ConnectHub.DefaultProxy
import ConnectHub.CircuitCalls
import ConnectHub.AuditBuffer
import ConnectHub.BulkImport
import ConnectHub.RelaySecrecy
import ConnectHub.MediaAdmission
import ConnectHub.ImportCandidates
import ConnectHub.InstanceListing
import ConnectHub.ResolverCache
import ConnectHub.MediaBudget
import ConnectHub.QrLifecycle
import ConnectHub.MediaTempCleaning
import ConnectHub.CreationRecovery
import ConnectHub.RateLimit
import ConnectHub.SealedText
import ConnectHub.AdminAccess
import ConnectHub.BaseLifecycle
import ConnectHub.HealthRounds
