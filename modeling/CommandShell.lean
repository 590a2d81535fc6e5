import CommandShell.Main
import CommandShell.Proofs.CommandLineGrammar
import CommandShell.Proofs.Pieces
import CommandShell.Proofs.ScriptRun
import CommandShell.Proofs.LineStart
import CommandShell.Proofs.RedirectedOutput
import CommandShell.Proofs.OperandReading
import CommandShell.Proofs.StartedCommand
import CommandShell.Proofs.LineFrame
import CommandShell.Proofs.CanonicalPaths
import CommandShell.Proofs.Whereabouts
import CommandShell.Proofs.PausedDialogue
import CommandShell.Proofs.ScriptDialogue
import CommandShell.Proofs.BackgroundJobs
import CommandShell.Proofs.RefusedPrograms
import CommandShell.Proofs.FoundPrograms
import CommandShell.Proofs.PlainOperands
import CommandShell.Proofs.TrailingMarker
import CommandShell.Proofs.ProcessDirectory
import CommandShell.Proofs.MovedOutput
import CommandShell.Proofs.SpacedScripts
import CommandShell.Proofs.LeavingSession
import CommandShell.Proofs.ScriptReports
import CommandShell.Proofs.CommandNames
import CommandShell.Proofs.DanglingOperators
import CommandShell.Proofs.OpenedTargets
import CommandShell.Proofs.ReportContexts
import CommandShell.Proofs.TrailingOperators
import CommandShell.Proofs.BuiltinFailures
import CommandShell.Proofs.ComposedDirectories
import CommandShell.Proofs.ShownDirectory
import CommandShell.Proofs.DirectoryListing
import CommandShell.Proofs.ReadSettings
import CommandShell.Proofs.ExtractionLoop
import CommandShell.Proofs.MaximalRuns
import CommandShell.Proofs.DecodedLines
import CommandShell.Proofs.Assignments
import CommandShell.Proofs.CopiedBytes
