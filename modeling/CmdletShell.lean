import CmdletShell.Main
import CmdletShell.Proofs.Arguments.Readings
import CmdletShell.Proofs.Arguments.Spellings
import CmdletShell.Proofs.Builtins.Draws
import CmdletShell.Proofs.Builtins.Listings
import CmdletShell.Proofs.Builtins.Registrations
import CmdletShell.Proofs.Builtins.Transfers
import CmdletShell.Proofs.Completions.Offered
import CmdletShell.Proofs.Layouts.Properties
import CmdletShell.Proofs.Lines.Tokens
import CmdletShell.Proofs.Programs.Modes
import CmdletShell.Proofs.Runs.Assignments
import CmdletShell.Proofs.Runs.Failures
import CmdletShell.Proofs.Runs.Homeward
import CmdletShell.Proofs.Runs.Names
import CmdletShell.Proofs.Runs.Output
import CmdletShell.Proofs.Runs.Reports
import CmdletShell.Proofs.Shells.Prompts
import CmdletShell.Proofs.Shells.Suggestions
import CmdletShell.Proofs.Shells.Unrecognized
import CmdletShell.Proofs.Shells.Usable
