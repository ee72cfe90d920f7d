import BrowserScript.CommandLine.Arguments
import BrowserScript.CommandLine.Plan
import BrowserScript.CommandLine.Report
import BrowserScript.Decimal.Binary64
import BrowserScript.Decimal.Shortest
import BrowserScript.Devtools.ChannelAddress
import BrowserScript.Devtools.Client
import BrowserScript.Devtools.Connection
import BrowserScript.Devtools.Endpoint
import BrowserScript.Devtools.Message
import BrowserScript.Devtools.WebAddress
import BrowserScript.Json.Decoder
import BrowserScript.Json.Flaw
import BrowserScript.Json.Mismatch
import BrowserScript.Json.Numeral
import BrowserScript.Json.Outline
import BrowserScript.Json.Value
import BrowserScript.Json.Written
import BrowserScript.Main
import BrowserScript.Page.Basic
import BrowserScript.Page.Call
import BrowserScript.Page.Functions
import BrowserScript.Program
import BrowserScript.Proofs.Relay.Account
import BrowserScript.Proofs.Relay.Assignment
import BrowserScript.Proofs.Relay.Correlation
import BrowserScript.Proofs.Relay.Delivery
import BrowserScript.Proofs.Relay.Flow
import BrowserScript.Proofs.Relay.Frame
import BrowserScript.Proofs.Relay.Mailbox
import BrowserScript.Proofs.Relay.Settlement
import BrowserScript.Proofs.Relay.Traffic
import BrowserScript.Proofs.Relay.Turn
import BrowserScript.Proofs.Relay.Verdict
import BrowserScript.Proofs.Run.Course
import BrowserScript.Proofs.Run.Meaning
import BrowserScript.Proofs.Run.Pieces
import BrowserScript.Proofs.Run.Refinement
import BrowserScript.Proofs.Run.Tally
import BrowserScript.Proofs.Run.Transcript
import BrowserScript.Proofs.Run.Tree
import BrowserScript.Proofs.Session.Attachment
import BrowserScript.Proofs.Session.Deed
import BrowserScript.Proofs.Session.Moves
import BrowserScript.Proofs.Session.Published
import BrowserScript.Proofs.Session.Schedule
import BrowserScript.Proofs.Session.Sharing
import BrowserScript.Proofs.Session.Slots
import BrowserScript.Proofs.Session.Sound
import BrowserScript.Relay.Command
import BrowserScript.Relay.Error
import BrowserScript.Relay.Exchange
import BrowserScript.Relay.Orchestrator
import BrowserScript.Relay.Registry
import BrowserScript.Relay.Worker
import BrowserScript.Run.Action
import BrowserScript.Run.Lookup
import BrowserScript.Run.Outcome
import BrowserScript.Run.Request
import BrowserScript.Run.Script
import BrowserScript.Run.Steps
import BrowserScript.Script.Basic
import BrowserScript.Script.Condition
import BrowserScript.Script.Selectors
import BrowserScript.Script.Step
import BrowserScript.Script.StepReading
import BrowserScript.Script.Template
import BrowserScript.Script.Variables
import BrowserScript.Session.Basic
import BrowserScript.Session.Line
import BrowserScript.Session.Manager
import BrowserScript.Settings
import BrowserScript.Simulation.Browser
import BrowserScript.Simulation.Client
import BrowserScript.Simulation.Dial
import BrowserScript.Simulation.Errand
import BrowserScript.Simulation.Invocation
import BrowserScript.Simulation.PageAction
import BrowserScript.Simulation.Scenario
import BrowserScript.Simulation.Schedule
import BrowserScript.Simulation.Task
import BrowserScript.Simulation.World
import BrowserScript.Store.Directory
import BrowserScript.Store.Files
import BrowserScript.Store.Memory
import BrowserScript.Text.Blank
import BrowserScript.Text.Hex
import BrowserScript.Text.Hidden
import BrowserScript.Text.Shown
import BrowserScript.Text.Within
import BrowserScript.Yaml.Cutter
import BrowserScript.Yaml.Cutting
import BrowserScript.Yaml.Document
import BrowserScript.Yaml.Fault
import BrowserScript.Yaml.Literal
import BrowserScript.Yaml.Name
import BrowserScript.Yaml.Node
import BrowserScript.Yaml.Part
import BrowserScript.Yaml.Reading
import BrowserScript.Yaml.Scalar
import BrowserScript.Yaml.Token
import BrowserScript.Proofs.Session.Chronicle
import BrowserScript.Proofs.Session.Whereabouts
import BrowserScript.Proofs.Session.Detached
import BrowserScript.Proofs.Session.Crowd
import BrowserScript.Proofs.Simulation.ConnectionLoss
import BrowserScript.Proofs.Run.Noted
import BrowserScript.Proofs.Run.Standing
import BrowserScript.Proofs.Run.Cancellation
import BrowserScript.Proofs.Session.Passage
import BrowserScript.Proofs.Session.Lease
import BrowserScript.Proofs.Session.Reattachment
import BrowserScript.Proofs.Session.Lifecycle
import BrowserScript.Proofs.Script.Layers
import BrowserScript.Proofs.Relay.Handling
import BrowserScript.Proofs.Relay.Links
import BrowserScript.Proofs.Relay.Parameters
import BrowserScript.Proofs.Session.Recovery
import BrowserScript.Proofs.Run.Marked
import BrowserScript.Proofs.Run.Tries
import BrowserScript.Proofs.Run.Retry
import BrowserScript.Proofs.Relay.Passing
import BrowserScript.Proofs.Relay.Sorting
import BrowserScript.Proofs.Relay.Serving
import BrowserScript.Proofs.Relay.Hearing
import BrowserScript.Proofs.Relay.Progress
import BrowserScript.Proofs.Lists
import BrowserScript.Proofs.Relay.Flags
import BrowserScript.Proofs.Relay.Registering
import BrowserScript.Proofs.Devtools.Losses
import BrowserScript.Proofs.Devtools.Intake
import BrowserScript.Proofs.Devtools.Dialogue
import BrowserScript.Proofs.Devtools.Correlation
import BrowserScript.Proofs.Devtools.Announcement
import BrowserScript.Proofs.Session.Ledger
import BrowserScript.Proofs.Session.Lending
import BrowserScript.Proofs.Run.Tenure
import BrowserScript.Proofs.Session.Company
import BrowserScript.Proofs.Session.Serialization
import BrowserScript.Proofs.Json.Agreement
import BrowserScript.Proofs.Script.Filling
import BrowserScript.Proofs.Run.Filling
import BrowserScript.Proofs.CommandLine.Lookup
import BrowserScript.Proofs.Json.Faithful
import BrowserScript.Proofs.Json.Lexing
import BrowserScript.Proofs.Json.Texts
import BrowserScript.Proofs.Relay.Wire
import BrowserScript.Proofs.Script.Validity
import BrowserScript.Proofs.Session.Origin
import BrowserScript.Proofs.Session.Standstill
import BrowserScript.Proofs.Session.Newer
import BrowserScript.Proofs.Devtools.Attempt
import BrowserScript.Proofs.Run.Closure
import BrowserScript.Proofs.Run.Parting
import BrowserScript.Proofs.Session.Lodging
import BrowserScript.Proofs.Session.Visit
import BrowserScript.Proofs.Session.Residence
import BrowserScript.Proofs.Session.Departure
import BrowserScript.Proofs.Script.Refilling
import BrowserScript.Proofs.Run.Search
import BrowserScript.Proofs.Run.Report
import BrowserScript.Proofs.Json.Admission
import BrowserScript.Proofs.Script.FirstViolation
import BrowserScript.Proofs.Script.Grammar
import BrowserScript.Proofs.Relay.Reconnection
import BrowserScript.Proofs.Relay.LinkUse
import BrowserScript.Proofs.Session.Generations
import BrowserScript.Proofs.Store.Confinement
import BrowserScript.Proofs.Polling
import BrowserScript.Proofs.Run.Waits
import BrowserScript.Proofs.Session.Readiness
