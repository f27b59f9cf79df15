import CuCascade.Lib.Machine
import CuCascade.Lib.Word
import CuCascade.Lib.Ledger
import CuCascade.Memory.Common
import CuCascade.Memory.NotificationChannel
import CuCascade.Memory.ResourceAdaptor
import CuCascade.Memory.GpuResource
import CuCascade.Memory.GpuWorld
import CuCascade.Proofs.AdaptorSpec
import CuCascade.Proofs.GpuLedger
import CuCascade.Proofs.GpuGuarantee
import CuCascade.Proofs.GpuConservation
import CuCascade.Memory.HostResource
import CuCascade.Memory.HostWorld
import CuCascade.Lib.Holdings
import CuCascade.Proofs.HostPool
import CuCascade.Lib.Books
import CuCascade.Proofs.HostLedger
import CuCascade.Proofs.HostConservation
import CuCascade.Memory.DiskLimiter
import CuCascade.Memory.MemorySpace
import CuCascade.Memory.ReservationManager
import CuCascade.Proofs.LimiterSpec
import CuCascade.Proofs.Reservations
import CuCascade.Proofs.Fallback
import CuCascade.Data.BatchWorld
import CuCascade.Proofs.BatchSpec
import CuCascade.Proofs.BatchCounts
import CuCascade.Proofs.BatchLifecycle
import CuCascade.Data.DataRepository
import CuCascade.Data.RepositoryWorld
import CuCascade.Proofs.WakeUp
import CuCascade.Data.RepresentationConverter
import CuCascade.Lib.Segmented
import CuCascade.Proofs.CopyLoops
import CuCascade.Proofs.HostAllocation
import CuCascade.Proofs.RoundTrip
import CuCascade.Memory.ChannelWorld
import CuCascade.Proofs.Channel
import CuCascade.Proofs.ChargesAlike
import CuCascade.Data.StorageWorld
import CuCascade.Lib.Buckets
import CuCascade.Proofs.Storage
import CuCascade.Lib.Cover
import CuCascade.Memory.TierWorlds
import CuCascade.Proofs.GpuReports
import CuCascade.Proofs.HostReports
import CuCascade.Proofs.Reports
import CuCascade.Data.DataWorld
import CuCascade.Proofs.DataStability
import CuCascade.Data.DataRepositoryManager
import CuCascade.Proofs.ManagerSpec
import CuCascade.Proofs.StateChangeCv
import CuCascade.Lib.Isolation
import CuCascade.Memory.ThreadWorld
import CuCascade.Proofs.AdaptorIsolation
import CuCascade.Memory.StreamWorld
import CuCascade.Proofs.StreamConservation
import CuCascade.Memory.Downgrading
import CuCascade.Proofs.Downgrading
import CuCascade.Proofs.PolicyGrowth
import CuCascade.Memory.StreamPool
import CuCascade.Proofs.StreamPool
import CuCascade.Memory.TenantWorld
import CuCascade.Proofs.HostFailure
import CuCascade.Proofs.HostRounding
import CuCascade.Proofs.Tenants
import CuCascade.Proofs.Credits
import CuCascade.Memory.GrowthWorld
import CuCascade.Proofs.ConcurrentGrowth
import CuCascade.Memory.RequestWorld
import CuCascade.Proofs.RequestWaits
import CuCascade.Proofs.Availability
import CuCascade.Proofs.HardLimit
import CuCascade.Data.RepositoryCalls
import CuCascade.Proofs.RepositoryCalls
import CuCascade.Proofs.NullEntries
import CuCascade.Data.BatchCalls
import CuCascade.Proofs.ThrowingCalls
import CuCascade.Proofs.ManagerAdds
import CuCascade.Lib.Share
import CuCascade.Memory.Configurator
import CuCascade.Proofs.ReservationLimit
import CuCascade.Memory.AttachWorld
import CuCascade.Proofs.Attachment
import CuCascade.Data.HostConversion
import CuCascade.Proofs.FullHost
import CuCascade.Proofs.HostSelection
import CuCascade.Memory.ManagerConstruction
import CuCascade.Proofs.LookupTables
import CuCascade.Memory.SpaceCalls
import CuCascade.Proofs.Announcements
import CuCascade.Proofs.BuiltinConverters
import CuCascade.Data.CurrentDevice
import CuCascade.Proofs.CurrentDevice
import CuCascade.Lib.Text
import CuCascade.Memory.TopologyDiscovery
import CuCascade.Proofs.NicSelection
import CuCascade.Proofs.CpuList
import CuCascade.Proofs.PciBusId
import CuCascade.Lib.Retry
import CuCascade.Utils.AtomicLoops
import CuCascade.Proofs.CounterLoops
import CuCascade.Proofs.PeakTracker
import CuCascade.Lib.Drain
import CuCascade.Lib.HighWater
import CuCascade.Lib.Turnstile
import CuCascade.Memory.Discovery
import CuCascade.Memory.LendingWorld
import CuCascade.Memory.LimiterWorld
import CuCascade.Proofs.Discovery
import CuCascade.Proofs.LimiterBooks
import CuCascade.Proofs.LimiterPeak
import CuCascade.Proofs.StreamWaits
import CuCascade.Data.LockScripts
import CuCascade.Lib.Extents
import CuCascade.Memory.PinnedHost
import CuCascade.Proofs.LockOrder
import CuCascade.Proofs.PinnedHost
import CuCascade.Data.TableStore
import CuCascade.Lib.Simulation
import CuCascade.Proofs.CopyOutcomes
import CuCascade.Proofs.Deliveries
import CuCascade.Proofs.TableStore
import CuCascade.Data.TableWorld
import CuCascade.Proofs.TableWorld
