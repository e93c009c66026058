import TaskCluster.Main
import TaskCluster.Api.Basic
import TaskCluster.Proofs.Record.Transitions
import TaskCluster.Proofs.Store.MemoryEffect
import TaskCluster.Proofs.Store.Order
import TaskCluster.Proofs.Store.Readback
import TaskCluster.Proofs.Store.Agreement
import TaskCluster.Proofs.Store.Traffic
import TaskCluster.Proofs.Store.Fencing
import TaskCluster.Proofs.Cluster.RunnerEffect
import TaskCluster.Proofs.Cluster.Tracking
import TaskCluster.Proofs.Store.Leases
import TaskCluster.Proofs.Cluster.Calls
import TaskCluster.Proofs.Cluster.Ownership
import TaskCluster.Proofs.Cluster.Iteration
import TaskCluster.Proofs.Cluster.Course
import TaskCluster.Proofs.Cluster.Exclusion
import TaskCluster.Proofs.Cluster.Simulation
import TaskCluster.Proofs.Store.TableEffect
import TaskCluster.Proofs.Store.Turn
import TaskCluster.Proofs.Store.DatabaseTurn
import TaskCluster.Proofs.Store.Lifecycle
import TaskCluster.Proofs.Store.Timeline
import TaskCluster.Proofs.Store.Passage
import TaskCluster.Proofs.Store.Budget
import TaskCluster.Proofs.Store.RunFields
import TaskCluster.Proofs.Store.Cancellation
import TaskCluster.Proofs.Store.Outcome
import TaskCluster.Proofs.Store.Backoff
import TaskCluster.Proofs.Record.LogLines
import TaskCluster.Proofs.Store.LogHistory
import TaskCluster.Proofs.Store.Selection
import TaskCluster.Proofs.Store.Placement
import TaskCluster.Proofs.Store.Session
import TaskCluster.Proofs.Store.Atomicity
import TaskCluster.Proofs.Store.ClaimScan
import TaskCluster.Proofs.Store.Entries
import TaskCluster.Proofs.Cluster.Validation
import TaskCluster.Proofs.Api.Effect
import TaskCluster.Proofs.Cluster.Tending
import TaskCluster.Proofs.Cluster.Shutdown
import TaskCluster.Proofs.Cluster.ShutdownSimulation
import TaskCluster.Proofs.Store.Sweep
import TaskCluster.Proofs.Job.Burst
import TaskCluster.Proofs.Job.Reporting
import TaskCluster.Proofs.Cluster.CancelRelay
import TaskCluster.Proofs.Store.Waiting
import TaskCluster.Proofs.Cluster.Filling
import TaskCluster.Proofs.Store.Paging
import TaskCluster.Proofs.Store.Columns
import TaskCluster.Proofs.Job.Sleeping
import TaskCluster.Proofs.Store.Handout
import TaskCluster.Proofs.Cluster.Resilience
import TaskCluster.Proofs.Text.StatusList
import TaskCluster.Proofs.Job.Slicing
import TaskCluster.Proofs.Store.Deadlines
