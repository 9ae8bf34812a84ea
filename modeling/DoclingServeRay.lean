import DoclingServeRay.Lib.OrderedDict
import DoclingServeRay.Lib.EventMachine
import DoclingServeRay.Lib.Fleet
import DoclingServeRay.Lib.Strings
import DoclingServeRay.Lib.PercentEncoding
import DoclingServeRay.Lib.Json
import DoclingServeRay.Lib.Calls
import DoclingServeRay.Lib.Contracts
import DoclingServeRay.Lib.Crew
import DoclingServeRay.Lib.Unwinding
import DoclingServeRay.Lib.Growth
import DoclingServeRay.Lib.Services
import DoclingServeRay.Orchestration.Workflow
import DoclingServeRay.Orchestration.Clock
import DoclingServeRay.Orchestration.Commands
import DoclingServeRay.Orchestration.Replay
import DoclingServeRay.Orchestration.Pacing
import DoclingServeRay.Orchestration.Termination
import DoclingServeRay.Orchestration.Heeding
import DoclingServeRay.Orchestration.Cancellation
import DoclingServeRay.Orchestration.Foreign
import DoclingServeRay.Orchestration.Verdict
import DoclingServeRay.Orchestration.Document
import DoclingServeRay.Orchestration.Namespace
import DoclingServeRay.Orchestration.Polling
import DoclingServeRay.Orchestration.OutputPrefix
import DoclingServeRay.Relay.Callback
import DoclingServeRay.Relay.Delivery
import DoclingServeRay.Relay.Independence
import DoclingServeRay.Relay.Addressing
import DoclingServeRay.Orchestration.Starter
import DoclingServeRay.Orchestration.Dispatch
import DoclingServeRay.Orchestration.Failures
import DoclingServeRay.Facade.Artifacts
import DoclingServeRay.Facade.Service
import DoclingServeRay.Facade.Naming
import DoclingServeRay.Facade.Options
import DoclingServeRay.Facade.Rejection
import DoclingServeRay.Facade.Tenancy
import DoclingServeRay.Facade.Reconstruction
import DoclingServeRay.Facade.Undelivered
import DoclingServeRay.Facade.Archive
import DoclingServeRay.Facade.Cleanup
import DoclingServeRay.Facade.Verdicts
import DoclingServeRay.Facade.SingleUse
import DoclingServeRay.Facade.Isolation
import DoclingServeRay.Facade.Custody
import DoclingServeRay.Facade.Waiting
import DoclingServeRay.Facade.Exchange
import DoclingServeRay.Facade.Attribution
import DoclingServeRay.Serving.StatusSocket
import DoclingServeRay.Serving.Subscribers
import DoclingServeRay.Serving.Answers
import DoclingServeRay.Serving.Requests
import DoclingServeRay.Serving.Strangers
import DoclingServeRay.Orchestration.Workers
import DoclingServeRay.Orchestration.Serial
import DoclingServeRay.Orchestration.Slots
