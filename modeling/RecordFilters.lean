import RecordFilters.Engine.Build
import RecordFilters.Json.Writer
import RecordFilters.Predicate.Stored
import RecordFilters.Record.Stored
import RecordFilters.Proofs.Graph.Reachability
import RecordFilters.Proofs.Graph.Walks
import RecordFilters.Proofs.Engine.Candidate
import RecordFilters.Proofs.Engine.References
import RecordFilters.Proofs.Handler.Accepted
import RecordFilters.Proofs.Engine.Ownership
import RecordFilters.Proofs.Engine.Acyclicity
import RecordFilters.Proofs.Evaluation.Meaning
import RecordFilters.Proofs.Evaluation.Steps
import RecordFilters.Proofs.Predicate.Folding
import RecordFilters.Proofs.Evaluation.Conditions
import RecordFilters.Proofs.Evaluation.Agreement
import RecordFilters.Proofs.Graph.Visit
import RecordFilters.Proofs.Evaluation.Depth
import RecordFilters.Proofs.Engine.Effects
import RecordFilters.Proofs.Engine.Evaluability
import RecordFilters.Proofs.Engine.Integrity
import RecordFilters.Proofs.Engine.Visibility
import RecordFilters.Proofs.Engine.Soundness
import RecordFilters.Proofs.Handler.Supported
import RecordFilters.Proofs.Engine.Privacy
import RecordFilters.Proofs.Json.Reading
import RecordFilters.Proofs.Filter.Stored
import RecordFilters.Proofs.Repository.Reopening
import RecordFilters.Proofs.Engine.Permanence
import RecordFilters.Proofs.Engine.InstalledOwnership
import RecordFilters.Proofs.Handler.HeldForm
import RecordFilters.Proofs.Engine.Revalidation
import RecordFilters.Proofs.Filter.Written
import RecordFilters.Proofs.Repository.Finding
import RecordFilters.Proofs.Repository.Consistency
import RecordFilters.Proofs.Graph.ConditionOrder
import RecordFilters.Proofs.Engine.Rebuilding
import RecordFilters.Proofs.Evaluation.Transparency
import RecordFilters.Proofs.Evaluation.Cycles
import RecordFilters.Proofs.Graph.Ancestry
import RecordFilters.Proofs.Handler.Idempotence
import RecordFilters.Proofs.Record.DayQuestions
import RecordFilters.Proofs.Record.IgnoringCase
import RecordFilters.Proofs.Calendar.Periods
import RecordFilters.Proofs.Evaluation.DateBounds
import RecordFilters.Proofs.Predicate.Expressions
import RecordFilters.Proofs.Evaluation.NormalForm
import RecordFilters.Proofs.Engine.Deletion
import RecordFilters.Proofs.Engine.Authorship
import RecordFilters.Proofs.Engine.CurrentUser
import RecordFilters.Proofs.Repository.NewIds
import RecordFilters.Proofs.Record.WholeNumbers
