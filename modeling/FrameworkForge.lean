import FrameworkForge.Host.Tables
import FrameworkForge.Main
import FrameworkForge.Process.Script
import FrameworkForge.Proofs.Build.Cleaning
import FrameworkForge.Proofs.Build.Slots
import FrameworkForge.Proofs.CommandLine.Reports
import FrameworkForge.Proofs.Packaging.Fresh
import FrameworkForge.Proofs.Run.Composition
import FrameworkForge.Proofs.Run.Rehearsal
import FrameworkForge.Proofs.Build.Libraries
import FrameworkForge.Proofs.Build.Validation
import FrameworkForge.Proofs.Build.Environments
import FrameworkForge.Proofs.Shell.Description
import FrameworkForge.Proofs.CommandLine.Verbosity
import FrameworkForge.Proofs.CommandLine.Views
import FrameworkForge.Proofs.Run.Spans
import FrameworkForge.Proofs.Path.Resolution
import FrameworkForge.Proofs.Config.Toolbox
import FrameworkForge.Proofs.Config.Guarantees
import FrameworkForge.Proofs.Packaging.OutputDirectory
import FrameworkForge.Proofs.Run.FailedStart
import FrameworkForge.Proofs.Config.Shapes
import FrameworkForge.Proofs.Config.Rearrangement
import FrameworkForge.Proofs.Target.Acceptance
import FrameworkForge.Proofs.Target.Reading
import FrameworkForge.Proofs.Build.Overrides
import FrameworkForge.Proofs.Build.TargetOrder
import FrameworkForge.Proofs.Path.Shown
import FrameworkForge.Proofs.Build.Relocation
import FrameworkForge.Proofs.CommandLine.Announcement
