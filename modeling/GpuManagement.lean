import GpuManagement.Interface.Basic
import GpuManagement.Proofs.Interface.Handles
import GpuManagement.Proofs.Interface.Output
import GpuManagement.Proofs.Interface.Query
import GpuManagement.Proofs.Session.Confinement
import GpuManagement.Proofs.Session.Lock
import GpuManagement.Proofs.Session.ProcessDevices
import GpuManagement.Proofs.Session.ReadBack
import GpuManagement.Proofs.Session.Registry
import GpuManagement.Proofs.Counter.Configuration
import GpuManagement.Proofs.Counter.Sampling
import GpuManagement.Proofs.Events.Notifier
import GpuManagement.Proofs.Events.Record
import GpuManagement.Proofs.Device.Frequency
import GpuManagement.Proofs.Device.HeaderCache
import GpuManagement.Proofs.Device.Metrics
import GpuManagement.Proofs.Device.StoredKind
import GpuManagement.Proofs.Topology.Address
import GpuManagement.Proofs.Topology.Agreement
import GpuManagement.Proofs.Topology.AllLinks
import GpuManagement.Proofs.Topology.Closest
import GpuManagement.Proofs.Topology.LinkFile
import GpuManagement.Proofs.Topology.Partitions
import GpuManagement.Proofs.Topology.Stale
