import ESharp.Main
import ESharp.Viewer.Drawing
import ESharp.Proofs.Text.Trim
import ESharp.Proofs.Text.Replace
import ESharp.Proofs.Values.Scan
import ESharp.Proofs.Values.Parts
import ESharp.Proofs.Values.Places
import ESharp.Proofs.Values.Limits
import ESharp.Proofs.Values.Escapes
import ESharp.Proofs.Directive.Reading
import ESharp.Proofs.Directive.LoopHeader
import ESharp.Proofs.Directive.RoundTrip
import ESharp.Proofs.Directive.FirstSpaces
import ESharp.Proofs.Program.Collecting
import ESharp.Proofs.Program.Routes
import ESharp.Proofs.Program.FixedPoint
import ESharp.Proofs.Program.Interleaving
import ESharp.Proofs.Program.PassingThrough
import ESharp.Proofs.Program.Braces
import ESharp.Proofs.Program.Written
import ESharp.Proofs.Program.Helper
import ESharp.Proofs.Program.Operands
import ESharp.Proofs.Listing.Numbers
import ESharp.Proofs.Listing.Payloads
import ESharp.Proofs.Listing.Spacing
import ESharp.Proofs.Config.Leaves
import ESharp.Proofs.Config.Layering
import ESharp.Proofs.Tools.Placeholders
import ESharp.Proofs.Viewer.Session
import ESharp.Proofs.Viewer.Independence
import ESharp.Proofs.Viewer.OnScreen
import ESharp.Proofs.Statement.Literal
import ESharp.Proofs.Viewer.Kinds
import ESharp.Proofs.Format.Registration
import ESharp.Proofs.Viewer.Keys
import ESharp.Proofs.Json.Grammar
import ESharp.Proofs.Listing.Lossless
import ESharp.Proofs.CommandLine.Options
import ESharp.Proofs.CommandLine.Grammar
import ESharp.Proofs.Files.Writing
import ESharp.Proofs.CommandLine.Translate
