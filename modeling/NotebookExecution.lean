import NotebookExecution.Store.Durability
import NotebookExecution.Execution.WorkerLoop
import NotebookExecution.Execution.Responses
import NotebookExecution.Execution.Stopped
import NotebookExecution.Execution.Finality
import NotebookExecution.Execution.Serial
import NotebookExecution.Jobs.Timezones
import NotebookExecution.Jobs.NotebookRuns
import NotebookExecution.Jobs.ScheduleInvariant
import NotebookExecution.Jobs.Pausing
import NotebookExecution.Jobs.Cancellation
import NotebookExecution.Dependencies.Cancellation
import NotebookExecution.Dependencies.Validity
import NotebookExecution.Integrity.Intact
import NotebookExecution.Integrity.Scope
import NotebookExecution.Connectors.Instantiation
import NotebookExecution.Connectors.Secrecy
import NotebookExecution.Integrity.Rows
import NotebookExecution.Integrity.Operations
import NotebookExecution.Integrity.Growth
import NotebookExecution.Integrity.Deletion
import NotebookExecution.Connectors.Operations
import NotebookExecution.Library.Sorting
import NotebookExecution.Output.History
import NotebookExecution.Output.Delivery
import NotebookExecution.Library.Constraints
import NotebookExecution.Library.Isolation
import NotebookExecution.Store.Concurrency
import NotebookExecution.Store.Solo
import NotebookExecution.Library.Enforcement
import NotebookExecution.Dependencies.Resolution
import NotebookExecution.Jobs.Cron
import NotebookExecution.Jobs.Progress
import NotebookExecution.Library.Civil
import NotebookExecution.Jobs.Adherence
import NotebookExecution.Jobs.CreateUpdate
import NotebookExecution.Library.Dict
import NotebookExecution.Execution.RuntimeManager
import NotebookExecution.Execution.Runtimes
import NotebookExecution.Execution.SessionManager
import NotebookExecution.Execution.Rest
import NotebookExecution.Execution.SessionOwnership
import NotebookExecution.Library.Versions
import NotebookExecution.Dependencies.Verification
import NotebookExecution.Library.Coroutine
import NotebookExecution.Jobs.Shutdown
import NotebookExecution.Jobs.Workers
import NotebookExecution.Jobs.Editing
import NotebookExecution.Jobs.Errors
import NotebookExecution.Jobs.Hierarchy
import NotebookExecution.Library.Utf8
import NotebookExecution.Output.Capping
import NotebookExecution.Connectors.Sanitising
import NotebookExecution.Connectors.RoundTrip
import NotebookExecution.Connectors.Creation
import NotebookExecution.Library.Batch
import NotebookExecution.Store.Reordering
import NotebookExecution.Execution.Completion
import NotebookExecution.Jobs.Attempts
import NotebookExecution.Dependencies.Grammar
import NotebookExecution.Dependencies.Requirements
import NotebookExecution.Dependencies.Extraction
import NotebookExecution.Output.Streaming
import NotebookExecution.Jobs.Coalescing
import NotebookExecution.Jobs.Lifecycle
import NotebookExecution.Execution.Chronicle
import NotebookExecution.Dependencies.Provision
import NotebookExecution.Library.Relational
import NotebookExecution.Connectors.Confidentiality
import NotebookExecution.Jobs.Lingering
import NotebookExecution.Connectors.Clients
import NotebookExecution.Library.Service
import NotebookExecution.Jobs.Api
import NotebookExecution.Dependencies.Api
import NotebookExecution.Application.Deployment
