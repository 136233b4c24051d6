import Muster.Log.Output
import Muster.Main
import Muster.Proofs.Chronicle.Down
import Muster.Proofs.Chronicle.Order
import Muster.Proofs.Container.Isolation
import Muster.Proofs.Container.Ports
import Muster.Proofs.Container.Renewal
import Muster.Proofs.Container.Retry
import Muster.Proofs.Container.Sparing
import Muster.Proofs.Descriptor.Entries
import Muster.Proofs.Descriptor.Mishap
import Muster.Proofs.Descriptor.Normal
import Muster.Proofs.Descriptor.PortText
import Muster.Proofs.Health.Poll
import Muster.Proofs.Launch.Looking
import Muster.Proofs.Launch.Outcome
import Muster.Proofs.StartOrder.Closure
import Muster.Proofs.StartOrder.Level
import Muster.Proofs.StartOrder.Profiles
import Muster.Proofs.Supervisor.Cancel
import Muster.Proofs.Supervisor.Delay
import Muster.Proofs.Supervisor.Limit
import Muster.Proofs.Supervisor.Monitor
import Muster.Proofs.Supervisor.Restart
import Muster.Rehearsal.Stage
import Muster.Rehearsal.Watch
import Muster.Service.Checked
import Muster.Proofs.Duration
import Muster.Proofs.Chronicle.Shutdown
import Muster.Proofs.Launch.Refusal
import Muster.Proofs.Supervisor.Interchange
import Muster.Proofs.Environment.Merge
import Muster.Proofs.StartOrder.Rest
import Muster.Proofs.Supervisor.Crew
import Muster.Proofs.Descriptor.Forms
