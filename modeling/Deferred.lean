import Deferred.Main
import Deferred.Text.Lines
import Deferred.Proofs.Arguments
import Deferred.Proofs.Assembling
import Deferred.Proofs.Extending
import Deferred.Proofs.Generated
import Deferred.Proofs.MethodRecord
import Deferred.Proofs.Overwriting
import Deferred.Proofs.Queue
import Deferred.Proofs.Applying
import Deferred.Proofs.OtherNames
import Deferred.Proofs.Acceptance
import Deferred.Proofs.Injecting
import Deferred.Proofs.InjectedArguments
import Deferred.Proofs.Reaching
import Deferred.Proofs.Replacing
import Deferred.Proofs.Reporting
import Deferred.Proofs.Blame
import Deferred.Proofs.Spans
import Deferred.Proofs.FailedRuns
import Deferred.Proofs.Alike
import Deferred.Proofs.Closed
import Deferred.Proofs.ParameterText
import Deferred.Proofs.Enumerating
import Deferred.Proofs.Visiting
import Deferred.Proofs.Presence
import Deferred.Proofs.Casing
import Deferred.Proofs.Collecting
import Deferred.Proofs.TypeVariables
import Deferred.Proofs.PlainReports
