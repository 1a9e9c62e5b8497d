import Rulebook.Proofs.ValidationSoundness
import Rulebook.Proofs.Script.SyntaxErrors
import Rulebook.Proofs.Subscriptions
import Rulebook.Proofs.Bytes.Canonical
import Rulebook.Proofs.Json.RoundTrip
import Rulebook.Proofs.Declarations
import Rulebook.Proofs.Script.Infix
import Rulebook.Proofs.Script.Limits
import Rulebook.Proofs.ScriptedComparison
import Rulebook.Proofs.Numeric.WholeNumbers
import Rulebook.Proofs.VectorComponents
import Rulebook.Proofs.Footprints
import Rulebook.Proofs.WithoutFailures
import Rulebook.Proofs.Upgrades
import Rulebook.Proofs.ScriptedArithmetic
import Rulebook.Proofs.ValidationRejections
import Rulebook.Proofs.Script.Steps
import Rulebook.Proofs.Script.Rendering
import Rulebook.Proofs.Script.MaximalMunch
import Rulebook.Proofs.Script.Mentions
import Rulebook.Proofs.ValidationOffences
import Rulebook.Proofs.ReferenceReplacement
import Rulebook.Proofs.Consultations
import Rulebook.Proofs.Bytes.Truncation
import Rulebook.Proofs.IntegerArithmetic
import Rulebook.Proofs.CopiedOperands
import Rulebook.Proofs.BatchLog
import Rulebook.Proofs.FlooredRemainders
