import RemoteShell.Editor
import RemoteShell.Main
import RemoteShell.Rehearsal
import RemoteShell.Proofs.Assoc
import RemoteShell.Proofs.Json.RoundTrip
import RemoteShell.Proofs.Line.Grammar
import RemoteShell.Proofs.Command.RoundTrip
import RemoteShell.Proofs.Path
import RemoteShell.Proofs.Queue.Worker
import RemoteShell.Proofs.Text.Utf8
import RemoteShell.Proofs.Url.Percent
import RemoteShell.Proofs.Server
import RemoteShell.Proofs.Session.Named
import RemoteShell.Proofs.Session.WorkPath
import RemoteShell.Proofs.Fault
import RemoteShell.Proofs.Connection
import RemoteShell.Proofs.Url.Typed
import RemoteShell.Proofs.Desk
import RemoteShell.Proofs.Json.Span
import RemoteShell.Proofs.Line.Span
import RemoteShell.Proofs.Assoc.Weight
import RemoteShell.Proofs.Command.Items
import RemoteShell.Proofs.Command.Survival
import RemoteShell.Proofs.Json.Pretty
import RemoteShell.Proofs.Disk
import RemoteShell.Proofs.History
import RemoteShell.Proofs.Interactive
import RemoteShell.Proofs.Program
import RemoteShell.Proofs.Queue.Tasks
import RemoteShell.Proofs.Command.Replay
import RemoteShell.Proofs.Session.Stored
import RemoteShell.Proofs.Interactive.Results
import RemoteShell.Proofs.History.Recorded
import RemoteShell.Proofs.Line.OpenQuote
import RemoteShell.Proofs.Settings.Layers
import RemoteShell.Proofs.Settings.Sources
import RemoteShell.Proofs.Command.Places
import RemoteShell.Proofs.Session.Moves
import RemoteShell.Proofs.History.Cursor
import RemoteShell.Proofs.Descriptor
import RemoteShell.Proofs.Registry
import RemoteShell.Proofs.Session.Options
import RemoteShell.Proofs.Content
import RemoteShell.Proofs.Editor
import RemoteShell.Proofs.Line.Joined
import RemoteShell.Proofs.Command.Rendered
import RemoteShell.Proofs.History.Clean
