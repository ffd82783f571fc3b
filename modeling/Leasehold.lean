import Leasehold.Command.Rehearsal
import Leasehold.Main
import Leasehold.Settings.FromJson
import Leasehold.Settings.ToJson
import Leasehold.Simulation.Step
import Leasehold.Proofs.Session.Transition
import Leasehold.Proofs.Session.Turns
import Leasehold.Proofs.Session.History
import Leasehold.Proofs.Session.LeaseAccounting
import Leasehold.Proofs.Session.Monitoring
import Leasehold.Proofs.Session.Calls
import Leasehold.Proofs.Session.Settlement
import Leasehold.Proofs.Session.Withdrawal
import Leasehold.Proofs.Session.Coherence
import Leasehold.Proofs.Session.Runs
import Leasehold.Proofs.Session.Stopping
import Leasehold.Proofs.Signal.Fates
import Leasehold.Proofs.Session.Outcomes
import Leasehold.Proofs.Store.Serving
import Leasehold.Proofs.Store.History
import Leasehold.Proofs.Store.Numbering
import Leasehold.Proofs.Store.Exclusion
import Leasehold.Proofs.Store.Foretelling
import Leasehold.Proofs.Tolerance
import Leasehold.Proofs.Agent.Breakage
import Leasehold.Proofs.Text.Percent
import Leasehold.Proofs.Url.Paths
import Leasehold.Proofs.Url.Extension
import Leasehold.Proofs.Url.Verbatim
import Leasehold.Proofs.Url.Parameters
import Leasehold.Proofs.Agent.Addressing
import Leasehold.Proofs.Store.Refinement
import Leasehold.Proofs.Session.Overlap
import Leasehold.Proofs.Session.Serialization
import Leasehold.Proofs.Session.Progress
import Leasehold.Proofs.Agent.Unavailability
import Leasehold.Proofs.Session.Tenure
import Leasehold.Proofs.Latency
import Leasehold.Proofs.Session.Locking
import Leasehold.Proofs.Duration.Spelling
import Leasehold.Proofs.Json.Reading
import Leasehold.Proofs.Json.Grammar
import Leasehold.Proofs.Settings.Entries
import Leasehold.Proofs.Settings.Json
import Leasehold.Proofs.Text.Utf8
import Leasehold.Proofs.Toml.Strings
import Leasehold.Proofs.Toml.Lines
import Leasehold.Proofs.Settings.Toml
import Leasehold.Proofs.Session.SoleCall
import Leasehold.Proofs.Command.Runs
import Leasehold.Proofs.Command.Rehearsals
import Leasehold.Proofs.Command.Askers
import Leasehold.Proofs.Command.Accounts
import Leasehold.Proofs.Command.Course
import Leasehold.Proofs.Command.Release
import Leasehold.Proofs.Agent.Loss
import Leasehold.Proofs.Session.Pacing
import Leasehold.Proofs.Session.Recreation
import Leasehold.Proofs.Attempts
import Leasehold.Proofs.Session.Failures
import Leasehold.Proofs.Agent.Destruction
import Leasehold.Proofs.Duration.Wire
import Leasehold.Proofs.Agent.Expiry
import Leasehold.Proofs.Session.Untouched
import Leasehold.Proofs.Windows
import Leasehold.Proofs.Json.Fields
import Leasehold.Proofs.Text.Base64
import Leasehold.Proofs.Agent.Bodies
import Leasehold.Proofs.Agent.Keys
import Leasehold.Proofs.Agent.Listing
import Leasehold.Proofs.Store.Likeness
import Leasehold.Proofs.Store.Sweeping
import Leasehold.Proofs.Store.Commuting
import Leasehold.Proofs.Command.Environment
import Leasehold.Proofs.Signal.History
import Leasehold.Proofs.Agent.Conveyance
import Leasehold.Proofs.Command.Lines
import Leasehold.Proofs.Command.Messages
