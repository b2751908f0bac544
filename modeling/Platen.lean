import Platen.Command.Run
import Platen.Config
import Platen.Fill
import Platen.Main
import Platen.Report.Basic
import Platen.Script
import Platen.Source
import Platen.Proofs.AppendedRows
import Platen.Proofs.BatchReflow
import Platen.Proofs.Framing
import Platen.Proofs.PageBreaks
import Platen.Proofs.ExpansionEnd
import Platen.Proofs.Histories
import Platen.Proofs.Isolation
import Platen.Proofs.RowBlocks
import Platen.Proofs.Writing
import Platen.Proofs.PrinterStyles
import Platen.Proofs.Positions
import Platen.Proofs.Sessions
import Platen.Proofs.LineWidths
import Platen.Proofs.Bindings
import Platen.Proofs.Draining
import Platen.Proofs.Modifiers
import Platen.Proofs.Grammar
import Platen.Proofs.Substitution
import Platen.Proofs.RepeatedModifiers
import Platen.Proofs.Projection
import Platen.Proofs.Totals
import Platen.Proofs.Cells
import Platen.Proofs.JsonForm
import Platen.Proofs.Binary64
import Platen.Proofs.NearestWhole
import Platen.Proofs.Grouping
import Platen.Proofs.Signs
import Platen.Proofs.WholeNumbers
import Platen.Proofs.PageEdits
import Platen.Proofs.Refusals
import Platen.Proofs.Preambles
import Platen.Proofs.WrittenDates
