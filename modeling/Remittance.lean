import Remittance.Json.Printer
import Remittance.Service.Http
import Remittance.Service.Launch
import Remittance.Shape.Instruction
import Remittance.Proofs.Session.Conservation
import Remittance.Proofs.Maturity
import Remittance.Proofs.Text.Spelling
import Remittance.Proofs.Wording
import Remittance.Proofs.Journal
import Remittance.Proofs.Session.Independence
import Remittance.Proofs.Service.Payment
import Remittance.Proofs.Text.UpperCase
import Remittance.Proofs.Shape.Stable
import Remittance.Proofs.Service.Launch
import Remittance.Proofs.Snapshot
import Remittance.Proofs.Numeral.Decimal
import Remittance.Proofs.Calendar.Rollover
import Remittance.Proofs.Calendar.Order
import Remittance.Proofs.Instruction.Amount
import Remittance.Proofs.Spacing
import Remittance.Proofs.Splitting
import Remittance.Proofs.Session.Reversal
import Remittance.Proofs.JournalLines
import Remittance.Proofs.Instruction.Operation
import Remittance.Proofs.Instruction.Body
import Remittance.Proofs.Instruction.Date
