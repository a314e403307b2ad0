import FunctionCalling.Callable.Catalogue
import FunctionCalling.Choice.CallLimit
import FunctionCalling.Conversation
import FunctionCalling.Main
import FunctionCalling.Registration
import FunctionCalling.Proofs.WellFormed
import FunctionCalling.Proofs.Registering
import FunctionCalling.Proofs.Safety
import FunctionCalling.Proofs.RoundTrip
import FunctionCalling.Proofs.Offered
import FunctionCalling.Proofs.CallLimits
import FunctionCalling.Proofs.Rounds
import FunctionCalling.Proofs.BareNames
import FunctionCalling.Proofs.FurtherSeparators
import FunctionCalling.Proofs.Configurations
import FunctionCalling.Proofs.Lookup
import FunctionCalling.Proofs.Occurrences
import FunctionCalling.Proofs.Recovery
import FunctionCalling.Proofs.Ledger
import FunctionCalling.Proofs.Recasing
import FunctionCalling.Proofs.Identities
import FunctionCalling.Proofs.References
import FunctionCalling.Proofs.ResultSizes
import FunctionCalling.Proofs.Failures
import FunctionCalling.Proofs.Interleaving
import FunctionCalling.Proofs.Answers
import FunctionCalling.Proofs.Forms
import FunctionCalling.Proofs.ReadBack
import FunctionCalling.Proofs.Inversion
import FunctionCalling.Proofs.OtherCalls
import FunctionCalling.Proofs.Manifests
import FunctionCalling.Proofs.Growth
import FunctionCalling.Proofs.Cutting
import FunctionCalling.Proofs.Counting
import FunctionCalling.Proofs.Replacing
