import Plunder.Record
import Plunder.Chart.Plan
import Plunder.Rehearsal.Scene
import Plunder.Main
import Plunder.Proofs.Ledger.Judgement
import Plunder.Proofs.Call.Signing
import Plunder.Proofs.Duration
import Plunder.Proofs.Ledger.Accounting
import Plunder.Proofs.Ledger.Finality
import Plunder.Proofs.Ledger.Production
import Plunder.Proofs.Ledger.Replay
import Plunder.Proofs.Rehearsal.Beside
import Plunder.Proofs.Rehearsal.Finality
import Plunder.Proofs.Text.Digit
import Plunder.Proofs.Value.RoundTrip
import Plunder.Proofs.Moment
import Plunder.Proofs.Call.Form
import Plunder.Proofs.Call.Hashing
import Plunder.Proofs.Ledger.Submission
import Plunder.Proofs.Wire.Exchange
import Plunder.Proofs.Client.Flow
import Plunder.Proofs.Client.Listening
import Plunder.Proofs.Client.Tearing
import Plunder.Proofs.Client.Answer
import Plunder.Proofs.Client.Dismissal
import Plunder.Proofs.Client.Onscreen
import Plunder.Proofs.Value.Short
import Plunder.Proofs.Chart.Ownership
import Plunder.Proofs.Chart.Handles
import Plunder.Proofs.Client.Gallery
import Plunder.Proofs.Except
import Plunder.Proofs.Value.Reading
import Plunder.Proofs.Wire.Reply
import Plunder.Proofs.Wire.Request
import Plunder.Proofs.Ledger.Immediate
import Plunder.Proofs.Client.Alone
import Plunder.Proofs.Client.EndToEnd
import Plunder.Proofs.Value.Reordered
import Plunder.Proofs.Call.Plain
import Plunder.Proofs.Call.Tampering
import Plunder.Proofs.Ledger.Batching
import Plunder.Proofs.Client.Messages
import Plunder.Proofs.Number.Decimal
import Plunder.Proofs.Number.Numeral
import Plunder.Proofs.Value.Whole
import Plunder.Proofs.Amount
import Plunder.Proofs.Ledger.Atomicity
import Plunder.Proofs.Ledger.Independence
import Plunder.Proofs.Ledger.Amounts
import Plunder.Proofs.Amount.Grammar
import Plunder.Proofs.Text.Hex
import Plunder.Proofs.Chart.Digits
import Plunder.Proofs.Chart.Shapes
import Plunder.Proofs.Console.Stint
import Plunder.Proofs.Console.Standing
import Plunder.Proofs.Console.Tidying
import Plunder.Proofs.Console.Exit
import Plunder.Proofs.Roster
import Plunder.Proofs.Node
