import LineShell.Api.Service
import LineShell.Connection
import LineShell.Json.Writer
import LineShell.Main
import LineShell.Proofs.Absorption
import LineShell.Proofs.Activation
import LineShell.Proofs.Api.Refinement
import LineShell.Proofs.Api.Serving
import LineShell.Proofs.Assembly.Demands
import LineShell.Proofs.Bookkeeping
import LineShell.Proofs.Chain
import LineShell.Proofs.Concurrent.Crowd
import LineShell.Proofs.Console.Dialogue
import LineShell.Proofs.Console.Offers
import LineShell.Proofs.Description
import LineShell.Proofs.Directories
import LineShell.Proofs.EntityListing
import LineShell.Proofs.EventBus.Subscriptions
import LineShell.Proofs.Fallbacks
import LineShell.Proofs.Filter.Counts
import LineShell.Proofs.Filter.LineCounts
import LineShell.Proofs.Filter.Selections
import LineShell.Proofs.HelpText
import LineShell.Proofs.Nesting
import LineShell.Proofs.Noninterference
import LineShell.Proofs.Number.Overflow
import LineShell.Proofs.Outcomes
import LineShell.Proofs.Registration
import LineShell.Proofs.Separators
import LineShell.Proofs.Session.Histories
import LineShell.Proofs.Session.Recall
import LineShell.Proofs.Spacing
import LineShell.Proofs.Terminal.Observing
import LineShell.Serve
