import Reckon.Cli.Record
import Reckon.Cli.Run
import Reckon.Document.Dotenv
import Reckon.Grammar.Meaning
import Reckon.Main
import Reckon.Proofs.Builtin.Extremal
import Reckon.Proofs.Calculus.Bracketed
import Reckon.Proofs.Calculus.Decisive
import Reckon.Proofs.Calculus.Iterates
import Reckon.Proofs.Calculus.Negated
import Reckon.Proofs.Calculus.Panels
import Reckon.Proofs.Calculus.Parameters
import Reckon.Proofs.Calculus.Recorded
import Reckon.Proofs.Cli.Governed
import Reckon.Proofs.Cli.Joined
import Reckon.Proofs.Decimal.Normal
import Reckon.Proofs.Evaluate.Declared
import Reckon.Proofs.Evaluate.Point
import Reckon.Proofs.Evaluate.Printed
import Reckon.Proofs.Evaluate.Resolved
import Reckon.Proofs.Evaluate.Spacing
import Reckon.Proofs.Grammar.Incomplete
import Reckon.Proofs.Grammar.Precedence
import Reckon.Proofs.Grammar.Viable
import Reckon.Proofs.Number.Shortest
import Reckon.Proofs.Parser.Unlimited
import Reckon.Proofs.Settings.Fieldwise
import Reckon.Proofs.Settings.Priority
import Reckon.Proofs.Token.Numeral
import Reckon.Proofs.Token.Refusal
import Reckon.Proofs.Token.Tiling
