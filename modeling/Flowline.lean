import Flowline.Main
import Flowline.Rehearsal.Office
import Flowline.Rehearsal.Script
import Flowline.Proofs.Program.Interleaving
import Flowline.Proofs.Engine.Walk
import Flowline.Proofs.Engine.Finalisation
import Flowline.Proofs.Engine.AuditLog
import Flowline.Proofs.Engine.Executions
import Flowline.Proofs.Engine.Survey
import Flowline.Proofs.Engine.WalkOrder
import Flowline.Proofs.Engine.Knowledge
import Flowline.Proofs.Engine.Independence
import Flowline.Proofs.Store.Clients
import Flowline.Proofs.Engine.Confinement
import Flowline.Proofs.Workflow.Reach
import Flowline.Proofs.Engine.Attempts
import Flowline.Proofs.Engine.CallStack
import Flowline.Proofs.Engine.Depth
import Flowline.Proofs.Engine.Halt
import Flowline.Proofs.Engine.Relabelling
import Flowline.Proofs.Engine.Remarks
import Flowline.Proofs.Engine.Logbook
import Flowline.Proofs.Handler.Webhook
import Flowline.Proofs.Engine.Secrecy
import Flowline.Proofs.Engine.Accounts
import Flowline.Proofs.Runner
import Flowline.Proofs.Number.Rounding
import Flowline.Proofs.Number.Shortest
import Flowline.Proofs.Json.Float
import Flowline.Proofs.Number.Narrowing
import Flowline.Proofs.Json.Reading
import Flowline.Proofs.Workflow.Document
import Flowline.Proofs.Engine.Concurrent
import Flowline.Proofs.Template.Resolution
import Flowline.Proofs.Engine.Trying
import Flowline.Proofs.Guard.Comparison
import Flowline.Proofs.Guard.Infix
import Flowline.Proofs.Text.Split
import Flowline.Proofs.Engine.Timing
import Flowline.Proofs.Context
import Flowline.Proofs.Generation.Backoff
import Flowline.Proofs.Guard.Membership
import Flowline.Proofs.Store.Names
import Flowline.Proofs.Json.Extent
import Flowline.Proofs.Guard.Recursion
import Flowline.Proofs.Guard.Members
