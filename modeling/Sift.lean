import Sift.Filter.Evaluation
import Sift.LimitsFile
import Sift.Params
import Sift.Proofs.Filter.Grammar
import Sift.Proofs.Filter.Parsing
import Sift.Proofs.Filter.Lexing
import Sift.Proofs.Filter.Recognition
import Sift.Proofs.Binary64.Printing
import Sift.Proofs.Filter.Spelling
import Sift.Proofs.Filter.RoundTrip
import Sift.Proofs.Filter.Meaning
import Sift.Proofs.Filter.Selection
import Sift.Proofs.Filter.Errors
import Sift.Proofs.Filter.Joining
import Sift.Proofs.Filter.Splitting
import Sift.Proofs.Filter.Viability
import Sift.Proofs.Filter.DepthLimit
import Sift.Proofs.Filter.CanonicalNesting
import Sift.Proofs.Filter.CorrectPrefix
import Sift.Proofs.Filter.Reevaluation
import Sift.Proofs.Filter.BooleanLaws
import Sift.Proofs.Schema.Resolution
import Sift.Proofs.Schema.Composition
import Sift.Proofs.Filter.Observation
import Sift.Proofs.Filter.Embedding
import Sift.Proofs.Filter.OperatorLaws
import Sift.Proofs.Text.Utf8Decoding
import Sift.Proofs.QueryString.Serializing
import Sift.Proofs.QueryString.Parameters
import Sift.Proofs.Filter.Spacing
import Sift.Proofs.Filter.EventLog
import Sift.Proofs.Filter.Suggestion
import Sift.Proofs.Binary64.Integers
import Sift.Proofs.Filter.IntegerComparison
import Sift.Proofs.Filter.NumberLiteral
import Sift.Proofs.Filter.TextComparison
import Sift.Proofs.Filter.Quotation
import Sift.Proofs.Filter.Resumption
