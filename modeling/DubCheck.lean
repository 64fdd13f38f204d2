import DubCheck.Main
import DubCheck.Service.ParentWatch
import DubCheck.Proofs.Project.Course
import DubCheck.Proofs.Project.Coherence
import DubCheck.Proofs.Project.Selecting
import DubCheck.Proofs.Issue.Deprecation
import DubCheck.Proofs.Issue.Header
import DubCheck.Proofs.Issue.Severity
import DubCheck.Proofs.Issue.Classification
import DubCheck.Proofs.Text.Line
import DubCheck.Proofs.Text.Numeral
import DubCheck.Proofs.Issue.RoundTrip
import DubCheck.Proofs.Sdl.Forest
import DubCheck.Proofs.Recipe.Agreement
import DubCheck.Proofs.Service.Answering
import DubCheck.Proofs.Workspace.Isolation
import DubCheck.Proofs.Workspace.Check
import DubCheck.Proofs.Workspace.ArchType
import DubCheck.Proofs.Recipe.Default
import DubCheck.Proofs.Workspace.Startup
import DubCheck.Proofs.Workspace.Paths
import DubCheck.Proofs.Workspace.Default
import DubCheck.Proofs.Workspace.Target
import DubCheck.Proofs.CommandLine.Check
import DubCheck.Proofs.Dub.PathLists
import DubCheck.Proofs.Sdl.Cut
import DubCheck.Proofs.Sdl.Acceptance
import DubCheck.Proofs.Sdl.Layout
import DubCheck.Proofs.Recipe.Blocks
import DubCheck.Proofs.Workspace.Alongside
import DubCheck.Proofs.Workspace.Operation
import DubCheck.Proofs.Workspace.Update
import DubCheck.Proofs.Sdl.Gaps
import DubCheck.Proofs.Sdl.Continuation
import DubCheck.Proofs.Document.Capacity
import DubCheck.Proofs.Dub.Asking
import DubCheck.Proofs.Recipe.Loading
import DubCheck.Proofs.Dub.Reading
import DubCheck.Proofs.Project.Interruption
import DubCheck.Proofs.CommandLine.Refusal
import DubCheck.Proofs.Host.Trail
import DubCheck.Proofs.Workspace.Pointing
import DubCheck.Proofs.Workspace.Fulfilment
import DubCheck.Proofs.Issue.Chunks
import DubCheck.Proofs.Issue.Secondary
import DubCheck.Proofs.Dub.Receiving
import DubCheck.Proofs.Service.RoundTrip
