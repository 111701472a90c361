import StagedFlow.Main
import StagedFlow.Script.Session
import StagedFlow.Proofs.Interference
import StagedFlow.Proofs.Recording
import StagedFlow.Proofs.History
import StagedFlow.Proofs.Plans
import StagedFlow.Proofs.Events
import StagedFlow.Proofs.Outcome
import StagedFlow.Proofs.HookOrder
import StagedFlow.Proofs.Handlers
import StagedFlow.Proofs.Stagewise
import StagedFlow.Proofs.DirectCall
import StagedFlow.Proofs.Calling
import StagedFlow.Proofs.Placing
import StagedFlow.Proofs.BuildOrder
import StagedFlow.Proofs.Lifecycle
import StagedFlow.Proofs.Callbacks
import StagedFlow.Proofs.Rounds
import StagedFlow.Proofs.Finishing
import StagedFlow.Proofs.PluginTurns
import StagedFlow.Forks
import StagedFlow.Proofs.Sharing
import StagedFlow.Proofs.Dispatching
import StagedFlow.Proofs.Listing
import StagedFlow.Proofs.Registering
import StagedFlow.Proofs.Keeping
import StagedFlow.Proofs.Tenancy
import StagedFlow.Proofs.CallSteps
import StagedFlow.Proofs.Invoked
import StagedFlow.Proofs.Access
import StagedFlow.Proofs.Piecewise
import StagedFlow.Proofs.Interleaving
import StagedFlow.Proofs.Isolation
import StagedFlow.Proofs.Turns
import StagedFlow.Proofs.Permits
import StagedFlow.Proofs.Limited
import StagedFlow.Proofs.Refusals
import StagedFlow.Proofs.Underway
import StagedFlow.Proofs.Traffic
import StagedFlow.Proofs.InFlight
import StagedFlow.Proofs.Credentials
import StagedFlow.Proofs.Prerequisites
import StagedFlow.Proofs.Counterparts
import StagedFlow.Proofs.Twins
import StagedFlow.Proofs.Booting
import StagedFlow.Proofs.Secrecy
import StagedFlow.Proofs.Layers
import StagedFlow.Proofs.Contributions
import StagedFlow.Proofs.Assembly
import StagedFlow.Proofs.Answering
import StagedFlow.Proofs.Precedence
import StagedFlow.Proofs.InParts
import StagedFlow.Proofs.Contending
import StagedFlow.Proofs.PlanFaults
import StagedFlow.Proofs.Naming
import StagedFlow.Proofs.Envelopes
import StagedFlow.Proofs.Filling
import StagedFlow.Proofs.Requests
import StagedFlow.Proofs.Enrolling
import StagedFlow.Proofs.ReadBack
import StagedFlow.Proofs.Rendering
import StagedFlow.Proofs.Forms
import StagedFlow.Proofs.Links
import StagedFlow.Proofs.Conforming
import StagedFlow.Proofs.Admitted
import StagedFlow.Proofs.Hosting
import StagedFlow.Proofs.Honouring
