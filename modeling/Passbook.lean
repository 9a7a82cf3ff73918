import Passbook.Config.EnvFile
import Passbook.Error.Classify
import Passbook.Http.Server
import Passbook.Movement
import Passbook.Record.Entry
import Passbook.Session.Script
import Passbook.Store.Direct
import Passbook.Proofs.Session.Execution
import Passbook.Proofs.Session.Locks
import Passbook.Proofs.Session.Exclusion
import Passbook.Proofs.Session.Staging
import Passbook.Proofs.Session.Atomicity
import Passbook.Proofs.Session.EntryIds
import Passbook.Proofs.Service.Chronicle
import Passbook.Proofs.Service.Discipline
import Passbook.Proofs.Service.Standing
import Passbook.Proofs.Service.Log
import Passbook.Proofs.Service.Linearization
import Passbook.Proofs.Service.Effect
import Passbook.Proofs.Service.Balance
import Passbook.Proofs.Session.Exchanges
import Passbook.Proofs.Session.Lifecycle
import Passbook.Proofs.Session.Recording
import Passbook.Proofs.Store.Direct
import Passbook.Proofs.Session.Copy
import Passbook.Proofs.Session.Discretion
import Passbook.Proofs.Session.Refinement
import Passbook.Proofs.Service.Confidence
import Passbook.Proofs.Session.Likeness
import Passbook.Proofs.Session.Twins
import Passbook.Proofs.Service.Noninterference
import Passbook.Proofs.Session.Alone
import Passbook.Proofs.Service.Performance
import Passbook.Proofs.Http.Opening
import Passbook.Proofs.Service.Ownership
import Passbook.Proofs.Service.Closing
import Passbook.Proofs.Service.Changes
import Passbook.Proofs.Http.Effects
import Passbook.Proofs.Session.Waiting
import Passbook.Proofs.Entry.Masking
import Passbook.Proofs.Http.Concealment
import Passbook.Proofs.Session.Looking
import Passbook.Proofs.Service.History
import Passbook.Proofs.Session.Punctuality
import Passbook.Proofs.Service.Timeline
import Passbook.Proofs.Session.Forgetting
import Passbook.Proofs.Session.OneRow
import Passbook.Proofs.Service.Deadlock
import Passbook.Proofs.Session.Conduct
import Passbook.Proofs.Service.Commutation
import Passbook.Proofs.Decimal.Value
import Passbook.Proofs.Decimal.Numeral
import Passbook.Proofs.Decimal.Reading
import Passbook.Proofs.Decimal.Rounding
import Passbook.Proofs.Decimal.Products
import Passbook.Proofs.Money.Major
import Passbook.Proofs.Decimal.Reciprocals
import Passbook.Proofs.Rates.Conversion
import Passbook.Proofs.Text.Blank
import Passbook.Proofs.Decimal.Writing
import Passbook.Proofs.Http.Amounts
import Passbook.Proofs.Rates.Tables
import Passbook.Proofs.Rates.Order
import Passbook.Proofs.Service.OwnCurrency
import Passbook.Proofs.Error.Chain
import Passbook.Proofs.Account.Calls
import Passbook.Proofs.Service.ForeignCurrency
import Passbook.Proofs.Binary.Nearest
import Passbook.Proofs.Binary.Shortest
import Passbook.Proofs.Decimal.Room
import Passbook.Proofs.Json.Literals
import Passbook.Proofs.Json.Numbers
import Passbook.Proofs.Http.NumberAmounts
import Passbook.Proofs.Time.Calendar
import Passbook.Proofs.Time.Text
import Passbook.Proofs.Uuid.Writing
import Passbook.Proofs.Json.Writing
import Passbook.Proofs.Json.Records
import Passbook.Proofs.Record.Writing
import Passbook.Proofs.Record.Guards
import Passbook.Proofs.Config.Settings
import Passbook.Proofs.Session.Succession
import Passbook.Proofs.Service.Acceptance
import Passbook.Proofs.Service.Certainty
