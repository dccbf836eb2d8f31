import Checkup.Lock.Trial
import Checkup.Proofs.Config.Loaded
import Checkup.Proofs.Detail.Places
import Checkup.Proofs.Ident.Fields
import Checkup.Proofs.Lock.Wakeups
import Checkup.Proofs.Lock.WritersFirst
import Checkup.Proofs.Pool.InOrder
import Checkup.Proofs.Runner.Cancelled
import Checkup.Proofs.Runner.Escapes
import Checkup.Proofs.Runner.OneWorker
import Checkup.Proofs.Scope.Alone
import Checkup.Proofs.Scope.Descent
import Checkup.Proofs.Service.Components
import Checkup.Proofs.Service.Making
import Checkup.Proofs.Service.Snapshot
import Checkup.Rehearsal.Batch
