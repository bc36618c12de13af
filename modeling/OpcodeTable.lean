import OpcodeTable.Text.Quoted
import OpcodeTable.Decimal.Text
import OpcodeTable.Render.Table
import OpcodeTable.Workspace
import OpcodeTable.Cli.Run
import OpcodeTable.Main
import OpcodeTable.Proofs.RenderInjective
import OpcodeTable.Proofs.EntryChecks
import OpcodeTable.Proofs.TableLayout
import OpcodeTable.Proofs.RunOutcome
import OpcodeTable.Proofs.OperandIdent
import OpcodeTable.Proofs.WriterDepth
import OpcodeTable.Proofs.TrailingBlanks
import OpcodeTable.Proofs.DatasetLoading
