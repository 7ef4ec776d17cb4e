import XGovernor.App.Closed
import XGovernor.App.DroppedCalls
import XGovernor.App.Leases
import XGovernor.App.Tenants
import XGovernor.Docker.Exclusion
import XGovernor.Docker.Collection
import XGovernor.E2b.Control
import XGovernor.E2b.Deletion
import XGovernor.E2b.Options
import XGovernor.E2b.Output
import XGovernor.E2b.Search
import XGovernor.Joint.Absence
import XGovernor.Joint.Boundaries
import XGovernor.Joint.Histories
import XGovernor.Joint.Holds
import XGovernor.Joint.References
import XGovernor.Joint.Workspaces
import XGovernor.Manager.Locks
import XGovernor.Mcts.Isolation
import XGovernor.Mcts.Jobs
import XGovernor.Mcts.Memory
import XGovernor.Mcts.Records
import XGovernor.Mcts.RetestGate
import XGovernor.Mcts.Selector
import XGovernor.Pi.OrphanGroup
import XGovernor.Server.RateLimit
import XGovernor.Xiaoo.Responses
import XGovernor.Manager.Accounting
import XGovernor.Manager.Moves
import XGovernor.Manager.Quota
import XGovernor.Manager.Retries
