import LineShell.Job.Rehearsal
import LineShell.Main
import LineShell.LineError
import LineShell.Proofs.Words.Reading
import LineShell.Proofs.Comment.Trimming
import LineShell.Proofs.Expansion.Live
import LineShell.Proofs.Job.History
import LineShell.Proofs.Comment.Cut
import LineShell.Proofs.Command.Listing
import LineShell.Proofs.Expansion.Template
import LineShell.Proofs.Shell.Run
import LineShell.Proofs.Words.Escaping
import LineShell.Proofs.Job.Announcing
import LineShell.Proofs.Shell.Loop
import LineShell.Proofs.History.Sessions
import LineShell.Proofs.Command.Portions
import LineShell.Proofs.Expansion.Pass
import LineShell.Proofs.Job.Losing
import LineShell.Proofs.Shell.Launching
import LineShell.Proofs.Environment.Values
import LineShell.Proofs.Environment.Exporting
import LineShell.Proofs.Path.Components
import LineShell.Proofs.Path.Prompt
import LineShell.Proofs.Shell.Places
import LineShell.Proofs.Shell.Exiting
import LineShell.Proofs.Shell.Stranding
import LineShell.Proofs.Shell.Showing
import LineShell.Proofs.Machine.Host
