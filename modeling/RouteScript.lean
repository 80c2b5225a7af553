import RouteScript.Main
import RouteScript.Proofs.Parser.Reading
import RouteScript.Proofs.Parser.Blocks
import RouteScript.Proofs.Parser.Acceptance
import RouteScript.Proofs.Parser.Wording
import RouteScript.Proofs.Parser.SourceOrder
import RouteScript.Proofs.Parser.Bounds
import RouteScript.Proofs.Machine.Turns
import RouteScript.Proofs.Machine.Footing
import RouteScript.Proofs.Machine.Change
import RouteScript.Proofs.Machine.Cut
import RouteScript.Proofs.Machine.Overlay
import RouteScript.Proofs.Compiled.Operands
import RouteScript.Proofs.Compiled.Correctness
import RouteScript.Proofs.Compiled.Independence
import RouteScript.Proofs.Compiled.Splitting
import RouteScript.Proofs.Compiled.Execution
import RouteScript.Proofs.Compiled.Gate
import RouteScript.Proofs.Compiled.Values
import RouteScript.Proofs.Text.Encoding
import RouteScript.Proofs.Lexer.Flat
import RouteScript.Proofs.Lexer.Standing
import RouteScript.Proofs.Lexer.Refinement
import RouteScript.Proofs.Lexer.Seam
import RouteScript.Proofs.Lexer.Rendering
import RouteScript.Proofs.Lexer.Invariants
import RouteScript.Proofs.Lexer.Moves
import RouteScript.Proofs.Lexer.TokenOrder
import RouteScript.Proofs.Lexer.LockStep
import RouteScript.Proofs.Lexer.Cuts
import RouteScript.Proofs.Lexer.Truncation
import RouteScript.Proofs.Lexer.Literals
import RouteScript.Proofs.Lexer.Enumeration
import RouteScript.Proofs.Machine.Modes
import RouteScript.Proofs.Machine.Accounting
import RouteScript.Proofs.Machine.Runs
import RouteScript.Proofs.Decimal.FloatRange
import RouteScript.Proofs.Client.Retrying
import RouteScript.Proofs.Client.Exhaustion
import RouteScript.Proofs.Client.Configured
import RouteScript.Proofs.Command.Pages
import RouteScript.Proofs.Command.InOrder
import RouteScript.Proofs.Command.Verdicts
import RouteScript.Proofs.Results
import RouteScript.Proofs.Settings.Stability
import RouteScript.Proofs.Settings.WellTyped
import RouteScript.Proofs.Settings.Acceptance
import RouteScript.Proofs.Command.Words
import RouteScript.Proofs.Diagnostic.Reporting
