import Errand.Cancel
import Errand.Main
import Errand.Proofs.Integration.Account
import Errand.Proofs.Integration.Branch
import Errand.Proofs.Integration.Course
import Errand.Proofs.Integration.Restoration
import Errand.Proofs.Integration.Interrupt
import Errand.Proofs.Integration.Discipline
import Errand.Proofs.Integration.Verdict
import Errand.Proofs.Integration.Departure
import Errand.Proofs.Run.Course
import Errand.Proofs.Run.Party
import Errand.Proofs.Run.Interrupt
import Errand.Proofs.Run.Program
import Errand.Proofs.Run.Order
import Errand.Proofs.Run.Influence
import Errand.Proofs.Json.Grammar
import Errand.Proofs.Json.Numeral
import Errand.Proofs.Json.Quoted
import Errand.Proofs.Json.Exact
import Errand.Proofs.Result.Conforms
import Errand.Proofs.Result.SameFields
import Errand.Proofs.Result.Reading
import Errand.Proofs.Result.Truncated
import Errand.Proofs.Result.Breakdown
import Errand.Proofs.Result.ExitStatus
import Errand.Proofs.Result.Interchange
import Errand.Proofs.Result.Spelling
import Errand.Proofs.Child.Reads
import Errand.Proofs.Text.Lowering
import Errand.Proofs.Wording
import Errand.Proofs.Run.Filing
import Errand.Proofs.Integration.Recording
import Errand.Proofs.Result.Faults
import Errand.Proofs.Run.Invocation
import Errand.Proofs.Run.Defaults
import Errand.Proofs.Identifier
import Errand.Proofs.Report
import Errand.Proofs.Reply
import Errand.Proofs.Families
import Errand.Proofs.Toml.Distinct
import Errand.Proofs.Config.Overlay
