import FlowPilot.Text.Category
import FlowPilot.Text.Blank
import FlowPilot.Text.Search
import FlowPilot.Text.Case
import FlowPilot.Text.BaseLetter
import FlowPilot.Text.Quoted
import FlowPilot.Text.Percent
import FlowPilot.Text.Normal
import FlowPilot.Json.Printer
import FlowPilot.Json.Parser
import FlowPilot.Plan.Bindings
import FlowPilot.Fault
import FlowPilot.Evidence
import FlowPilot.Template.Render
import FlowPilot.Step.Decode
import FlowPilot.Step.Encode
import FlowPilot.Act
import FlowPilot.Page.Element
import FlowPilot.Page.Dom
import FlowPilot.Page.Selector
import FlowPilot.Page.Resolve
import FlowPilot.Clock
import FlowPilot.Poll
import FlowPilot.Page.Interference
import FlowPilot.Page.State
import FlowPilot.Page.Operations
import FlowPilot.Page.Wait
import FlowPilot.Pattern.Brackets
import FlowPilot.Pattern.Url
import FlowPilot.Action.Perform
import FlowPilot.Flow.OnPage
import FlowPilot.Flow.Validation
import FlowPilot.Coordinator.Client
import FlowPilot.Assist.Loop
import FlowPilot.Main
import FlowPilot.Proofs.Act
import FlowPilot.Proofs.Flow.Recursion
import FlowPilot.Proofs.Template.Fill
import FlowPilot.Proofs.Desk.Confirmation
import FlowPilot.Proofs.Desk.Progress
import FlowPilot.Proofs.Flow.Trying
import FlowPilot.Proofs.Session.Login
import FlowPilot.Proofs.Desk.Events
import FlowPilot.Proofs.Page.Idle
import FlowPilot.Proofs.Clicking
import FlowPilot.Proofs.Table.Search
import FlowPilot.Proofs.Action.TableClick
import FlowPilot.Proofs.Text.Blank
import FlowPilot.Proofs.Step.Presence
import FlowPilot.Proofs.Action.Complete
import FlowPilot.Proofs.Flow.Validation
import FlowPilot.Proofs.Desk.Guard
import FlowPilot.Proofs.Flow.Composition
import FlowPilot.Proofs.Session.Handles
import FlowPilot.Proofs.Flow.Agreement
import FlowPilot.Proofs.Desk.Browsers
import FlowPilot.Proofs.Assist.Closing
import FlowPilot.Proofs.Desk.Loading
import FlowPilot.Proofs.Page.Failures
import FlowPilot.Proofs.Action.Demands
import FlowPilot.Proofs.Flow.Nesting
import FlowPilot.Proofs.Flow.Failures
import FlowPilot.Proofs.Clicking.Calls
import FlowPilot.Proofs.Clicking.Choice
import FlowPilot.Proofs.Table.FirstFit
import FlowPilot.Proofs.Page.Waiting
import FlowPilot.Proofs.Page.Time
import FlowPilot.Proofs.Page.Timeout
import FlowPilot.Proofs.Action.Sidebar
import FlowPilot.Proofs.Action.Expectation
import FlowPilot.Proofs.Clicking.Attempts
import FlowPilot.Proofs.Action.Toggling
import FlowPilot.Proofs.Json.Sorted
import FlowPilot.Proofs.Json.Places
import FlowPilot.Proofs.Template.Segments
import FlowPilot.Proofs.Template.Unbound
import FlowPilot.Proofs.Flow.Fallback
import FlowPilot.Proofs.Pattern.Glob
import FlowPilot.Proofs.Pattern.Translation
import FlowPilot.Proofs.Flow.Timeout
import FlowPilot.Proofs.Desk.Preparation
import FlowPilot.Proofs.Flow.Acceptance
import FlowPilot.Proofs.Invoice
import FlowPilot.Proofs.Text.Runs
import FlowPilot.Proofs.Text.Case
import FlowPilot.Proofs.Text.Normal
import FlowPilot.Proofs.Text.Category
import FlowPilot.Proofs.Text.BaseLetter
import FlowPilot.Proofs.Expense
import FlowPilot.Proofs.Number.Rounding
import FlowPilot.Proofs.Number.Shortest
import FlowPilot.Proofs.Number.Reading
import FlowPilot.Proofs.Json.Scalar
import FlowPilot.Proofs.Step.Placeholder
import FlowPilot.Proofs.Step.Encoding
import FlowPilot.Proofs.Poll.Stalling
import FlowPilot.Proofs.Evidence
import FlowPilot.Proofs.Desk.Pictures
import FlowPilot.Proofs.Template.Tight
import FlowPilot.Proofs.Flow.Strict
import FlowPilot.Proofs.Page.Forest
import FlowPilot.Proofs.Page.Arena
import FlowPilot.Proofs.Page.Walks
import FlowPilot.Proofs.Page.Ascent
import FlowPilot.Proofs.Coordinator.Path
import FlowPilot.Proofs.Text.Line
import FlowPilot.Proofs.Fault.Line
import FlowPilot.Proofs.Assist.Answer
import FlowPilot.Proofs.Action.Course
import FlowPilot.Proofs.Flow.Endless
import FlowPilot.Proofs.Assist.Patience
