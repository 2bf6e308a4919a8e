import LoanBook.Allocation
import LoanBook.Attestation
import LoanBook.Binary64.Nearest
import LoanBook.Binary64.Shortest
import LoanBook.Calendar.Date
import LoanBook.Calendar.Instant
import LoanBook.Calendar.Timestamp
import LoanBook.Configuration
import LoanBook.Currency
import LoanBook.Decimal.Arithmetic
import LoanBook.Decimal.Basic
import LoanBook.Decimal.Quotient
import LoanBook.Decimal.Text
import LoanBook.Failure
import LoanBook.Identifier
import LoanBook.Json.Basic
import LoanBook.Json.Numeral
import LoanBook.Json.Printer
import LoanBook.Json.Reader
import LoanBook.Json.Record
import LoanBook.Json.Token
import LoanBook.Lifecycle
import LoanBook.Loan.Basic
import LoanBook.Loan.Row
import LoanBook.LoanState
import LoanBook.Money.Basic
import LoanBook.Money.Split
import LoanBook.Power
import LoanBook.Proofs.Allocation.Bounds
import LoanBook.Proofs.Allocation.Closing
import LoanBook.Proofs.Allocation.Conservation
import LoanBook.Proofs.Allocation.Coverage
import LoanBook.Proofs.Allocation.DueDates
import LoanBook.Proofs.Allocation.Failures
import LoanBook.Proofs.Allocation.Filling
import LoanBook.Proofs.Allocation.Foreseen
import LoanBook.Proofs.Allocation.MinorUnits
import LoanBook.Proofs.Allocation.Rounding
import LoanBook.Proofs.Allocation.Steps
import LoanBook.Proofs.Allocation.Subtraction
import LoanBook.Proofs.Calendar.Days
import LoanBook.Proofs.Calendar.Months
import LoanBook.Proofs.Calendar.Reading
import LoanBook.Proofs.Configuration.Answers
import LoanBook.Proofs.Decimal.Bracketing
import LoanBook.Proofs.Decimal.Closeness
import LoanBook.Proofs.Decimal.Fitting
import LoanBook.Proofs.Decimal.Order
import LoanBook.Proofs.Decimal.Overflow
import LoanBook.Proofs.Decimal.Products
import LoanBook.Proofs.Decimal.Quotients
import LoanBook.Proofs.Decimal.Reading
import LoanBook.Proofs.Decimal.Signs
import LoanBook.Proofs.Decimal.Sums
import LoanBook.Proofs.Failure.Steps
import LoanBook.Proofs.Identifier.Order
import LoanBook.Proofs.Identifier.Texts
import LoanBook.Proofs.Json.Documents
import LoanBook.Proofs.Json.Records
import LoanBook.Proofs.Lifecycle.Answers
import LoanBook.Proofs.Lifecycle.Balance
import LoanBook.Proofs.Lifecycle.Conservation
import LoanBook.Proofs.Lifecycle.Effects
import LoanBook.Proofs.Lifecycle.Entry
import LoanBook.Proofs.Lifecycle.Failures
import LoanBook.Proofs.Lifecycle.History
import LoanBook.Proofs.Lifecycle.MinorUnits
import LoanBook.Proofs.Lifecycle.Order
import LoanBook.Proofs.Lifecycle.Run
import LoanBook.Proofs.Lifecycle.Tampering
import LoanBook.Proofs.Lifecycle.Views
import LoanBook.Proofs.Loan.Attestations
import LoanBook.Proofs.Loan.Grouping
import LoanBook.Proofs.Loan.Joining
import LoanBook.Proofs.Loan.Origins
import LoanBook.Proofs.Loan.Scan
import LoanBook.Proofs.Loan.Separation
import LoanBook.Proofs.Loan.Views
import LoanBook.Proofs.Money.Answers
import LoanBook.Proofs.Money.Exact
import LoanBook.Proofs.Money.Failures
import LoanBook.Proofs.Money.MinorUnits
import LoanBook.Proofs.Money.Nearest
import LoanBook.Proofs.Money.Portions
import LoanBook.Proofs.Money.Remainder
import LoanBook.Proofs.Money.Signs
import LoanBook.Proofs.Rate.Ratios
import LoanBook.Proofs.Request.Admission
import LoanBook.Proofs.Rounding.Nearest
import LoanBook.Proofs.Schedule.Conservation
import LoanBook.Proofs.Schedule.DueDates
import LoanBook.Proofs.Schedule.Evenness
import LoanBook.Proofs.Schedule.Failures
import LoanBook.Proofs.Schedule.MinorUnits
import LoanBook.Proofs.Schedule.Nearest
import LoanBook.Proofs.Schedule.Settlement
import LoanBook.Proofs.Schedule.Totals
import LoanBook.Proofs.Store.Answers
import LoanBook.Proofs.Store.Atomicity
import LoanBook.Proofs.Store.Isolation
import LoanBook.Proofs.Store.Ledger
import LoanBook.Proofs.Store.Provenance
import LoanBook.Proofs.Store.Reading
import LoanBook.Proofs.Store.Tampering
import LoanBook.Proofs.Store.Writing
import LoanBook.Proofs.Text.Base64
import LoanBook.Proofs.Text.Canonical
import LoanBook.Proofs.Wire.Configurations
import LoanBook.Proofs.Wire.Loans
import LoanBook.Proofs.Wire.Requests
import LoanBook.Proofs.Wire.RoundTrip
import LoanBook.Proofs.Wire.Scalars
import LoanBook.Proofs.Wire.Views
import LoanBook.Rate
import LoanBook.Request
import LoanBook.Rounding
import LoanBook.Schedule
import LoanBook.Signature.Ed25519
import LoanBook.Signature.Edwards
import LoanBook.Signature.Sha512
import LoanBook.Store.Basic
import LoanBook.Store.Mutation
import LoanBook.Text.Base64
import LoanBook.Text.Blank
import LoanBook.View
import LoanBook.Wire.Configuration
import LoanBook.Wire.Loan
import LoanBook.Wire.Money
import LoanBook.Wire.Request
import LoanBook.Wire.Scalar
import LoanBook.Wire.View
