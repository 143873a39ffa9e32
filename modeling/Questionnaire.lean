import Questionnaire.Json.Whole
import Questionnaire.Presentation.Refresh
import Questionnaire.Presentation.View
import Questionnaire.Editor.Desk
import Questionnaire.Fill.Import
import Questionnaire.Remote.Client
import Questionnaire.Database.Column
import Questionnaire.Time.Moment
import Questionnaire.Service.Command
import Questionnaire.Api.Loopback
import Questionnaire.Log.Record
import Questionnaire.Deployment
import Questionnaire.Main
import Questionnaire.Proofs.Attempt
import Questionnaire.Proofs.Database.Answers
import Questionnaire.Proofs.Presentation.Refresh
import Questionnaire.Proofs.Service.Saving
import Questionnaire.Proofs.Service.Locking
import Questionnaire.Proofs.Service.Stored
import Questionnaire.Proofs.Service.History
import Questionnaire.Proofs.Fill.Loading
import Questionnaire.Proofs.Fill.Tabs
import Questionnaire.Proofs.Decimal.Reading
import Questionnaire.Proofs.Document.Reading
import Questionnaire.Proofs.Document.RoundTrip
import Questionnaire.Proofs.Service.Ledger
import Questionnaire.Proofs.Service.Frozen
import Questionnaire.Proofs.Service.Sent
import Questionnaire.Proofs.Presentation.WrittenBack
import Questionnaire.Proofs.Service.WellFormed
import Questionnaire.Proofs.Service.Rejected
import Questionnaire.Proofs.Editor.Arranged
import Questionnaire.Proofs.Editor.Refinement
import Questionnaire.Proofs.Editor.Declined
import Questionnaire.Proofs.Fill.Viewing
import Questionnaire.Proofs.Fill.Discipline
import Questionnaire.Proofs.Remote.Interchange
import Questionnaire.Proofs.Document.Outline
import Questionnaire.Proofs.Presentation.Visibility
import Questionnaire.Proofs.Document.Validation
import Questionnaire.Proofs.Document.Commented
import Questionnaire.Proofs.Editor.Identifiers
import Questionnaire.Proofs.Editor.Orderly
import Questionnaire.Proofs.Editor.Checking
import Questionnaire.Proofs.Editor.Authoring
import Questionnaire.Proofs.Api.Gate
import Questionnaire.Proofs.Remote.Saving
import Questionnaire.Proofs.Remote.Fetching
import Questionnaire.Proofs.Editor.Faithful
import Questionnaire.Proofs.Fill.Accounting
import Questionnaire.Proofs.Service.Content
import Questionnaire.Proofs.Api.Saving
import Questionnaire.Proofs.Service.Authoring
import Questionnaire.Proofs.Service.Importing
import Questionnaire.Proofs.Document.Charset
import Questionnaire.Proofs.Presentation.Dependence
import Questionnaire.Proofs.Presentation.Changed
import Questionnaire.Proofs.Editor.Nesting
import Questionnaire.Proofs.Service.Nesting
import Questionnaire.Proofs.Document.Shape
import Questionnaire.Proofs.Service.Alone
import Questionnaire.Proofs.Presentation.Answering
import Questionnaire.Proofs.Condition.Spelling
import Questionnaire.Proofs.Condition.Negation
import Questionnaire.Proofs.Fill.Failing
import Questionnaire.Proofs.Editor.Numbering
import Questionnaire.Proofs.Api.Keys
