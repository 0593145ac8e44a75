import Sixteen.Main
import Sixteen.Command.World
import Sixteen.Proofs.Operand.Range
import Sixteen.Proofs.Program.Basic
import Sixteen.Proofs.Outcome
import Sixteen.Proofs.Statement.Line
import Sixteen.Proofs.SymbolTable
import Sixteen.Proofs.Program.Layout
import Sixteen.Proofs.Program.Assembly
import Sixteen.Proofs.Instr.Codec
import Sixteen.Proofs.Statement.Reader
import Sixteen.Proofs.Program.Execution
import Sixteen.Proofs.Text.Lines
import Sixteen.Proofs.Text.Numeral
import Sixteen.Proofs.Image.Forms
import Sixteen.Proofs.Command.ReadImage
import Sixteen.Proofs.Token.Lexer
import Sixteen.Proofs.Token.Written
import Sixteen.Proofs.Instr.Text
import Sixteen.Proofs.Listing
import Sixteen.Proofs.Instr.Canonical
import Sixteen.Proofs.Image.Faithful
import Sixteen.Proofs.Machine.Architecture
import Sixteen.Proofs.Program.Append
import Sixteen.Proofs.Statement.Grammar
import Sixteen.Proofs.Program.Faults
import Sixteen.Proofs.Simulator.Running
import Sixteen.Proofs.Simulator.History
import Sixteen.Proofs.Simulator.Calls
import Sixteen.Proofs.Simulator.Failing
import Sixteen.Proofs.Checked.Assembly
import Sixteen.Proofs.Checked.Image
import Sixteen.Proofs.Checked.Machine
import Sixteen.Proofs.Checked.Safety
import Sixteen.Proofs.Simulator.Condition
import Sixteen.Proofs.Simulator.Consoles
import Sixteen.Proofs.Simulator.Printing
import Sixteen.Proofs.Simulator.Spare
import Sixteen.Proofs.Program.Outline
import Sixteen.Proofs.Program.Renaming
import Sixteen.Proofs.Program.Spacing
import Sixteen.Proofs.Text.Blank
import Sixteen.Proofs.Simulator.Loading
import Sixteen.Proofs.SymbolTable.Attempts
import Sixteen.Proofs.Token.Name
import Sixteen.Proofs.Token.Label
import Sixteen.Proofs.Statement.Label
import Sixteen.Proofs.Statement.Separator
import Sixteen.Proofs.Text.Digits
import Sixteen.Proofs.Image.Grammar
import Sixteen.Proofs.Token.Literal
import Sixteen.Proofs.Statement.Number
import Sixteen.Proofs.Command.Paths
import Sixteen.Proofs.Command.Assembling
import Sixteen.Proofs.Token.Mnemonic
import Sixteen.Proofs.Token.Register
import Sixteen.Proofs.Token.Shape
import Sixteen.Proofs.Token.Lossless
import Sixteen.Proofs.Operand.Offsets
