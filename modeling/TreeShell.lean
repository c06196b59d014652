import TreeShell.Main
import TreeShell.Web.App
import TreeShell.Web.Sent
import TreeShell.Proofs.Safety
import TreeShell.Proofs.Web.Refusal
import TreeShell.Proofs.Web.Isolation
import TreeShell.Proofs.Outcome
import TreeShell.Proofs.Moves
import TreeShell.Proofs.Path
import TreeShell.Proofs.ClosedForm
import TreeShell.Proofs.Onward
import TreeShell.Proofs.Return
import TreeShell.Proofs.UserName
import TreeShell.Proofs.Account
import TreeShell.Proofs.Spelling
import TreeShell.Proofs.Transcript
import TreeShell.Proofs.Web.FrontEnds
import TreeShell.Proofs.Web.Limits
import TreeShell.Proofs.Desk
import TreeShell.Proofs.Concatenation
import TreeShell.Proofs.Reaching
import TreeShell.Proofs.Words
import TreeShell.Proofs.Layout
import TreeShell.Proofs.Ending
import TreeShell.Proofs.Stamp
import TreeShell.Proofs.Selection
