import JobShell.Main
import JobShell.Machine.Observe
import JobShell.Proofs.Pipeline.Reading
import JobShell.Proofs.Pipeline.Readable
import JobShell.Proofs.Pipeline.Limits
import JobShell.Proofs.Pipeline.Shown
import JobShell.Proofs.Launch.Wiring
import JobShell.Proofs.Job.Collected
import JobShell.Proofs.Job.Log
import JobShell.Proofs.Job.Reaping
import JobShell.Proofs.Launch.Foreground
import JobShell.Proofs.Group.Placed
import JobShell.Proofs.Line.Rules
import JobShell.Proofs.Recycling.Interpreter
import JobShell.Proofs.Recycling.Family
import JobShell.Proofs.Recycling.Reaper
import JobShell.Proofs.Recycling.Owed
import JobShell.Proofs.Recycling.Sane
import JobShell.Proofs.Recycling.Noticed
import JobShell.Proofs.Recycling.Removed
import JobShell.Proofs.Recycling.Status
import JobShell.Proofs.Recycling.Cleanup
import JobShell.Proofs.Session.Course
import JobShell.Proofs.Estate.Command
import JobShell.Proofs.Estate.Piped
import JobShell.Proofs.Estate.Listing
import JobShell.Proofs.Estate.Background
import JobShell.Proofs.Estate.Capacity
import JobShell.Proofs.Builtin.Terminal
import JobShell.Proofs.Launch.Apart
import JobShell.Proofs.Builtin.JobId
import JobShell.Proofs.Estate.Exit
import JobShell.Proofs.Launch.Turns
import JobShell.Proofs.Launch.Bytes
import JobShell.Proofs.Launch.Lost
import JobShell.Proofs.Config.Home
import JobShell.Proofs.Session.Answers
import JobShell.Proofs.Session.Trimmed
import JobShell.Proofs.Pipeline.Words
