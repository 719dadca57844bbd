import AllowanceProxy.Chain.Querier
import AllowanceProxy.Log
import AllowanceProxy.Main
import AllowanceProxy.Service
import AllowanceProxy.Wallet.Call
import AllowanceProxy.Proofs.Asking
import AllowanceProxy.Proofs.Calendar
import AllowanceProxy.Proofs.Period
import AllowanceProxy.Proofs.Debit
import AllowanceProxy.Proofs.Progress
import AllowanceProxy.Proofs.Frame
import AllowanceProxy.Proofs.Message
import AllowanceProxy.Proofs.Passage
import AllowanceProxy.Proofs.Batch
import AllowanceProxy.Proofs.Forwarding
import AllowanceProxy.Proofs.Atomicity
import AllowanceProxy.Proofs.History
import AllowanceProxy.Proofs.Run
import AllowanceProxy.Proofs.Schema
import AllowanceProxy.Proofs.Spacing
import AllowanceProxy.Proofs.Ledger
import AllowanceProxy.Proofs.Effect
import AllowanceProxy.Proofs.Invariant
import AllowanceProxy.Proofs.RoundTrip
import AllowanceProxy.Proofs.Faults
import AllowanceProxy.Proofs.Reachable
import AllowanceProxy.Proofs.Handover
import AllowanceProxy.Proofs.Privilege
import AllowanceProxy.Proofs.Persistence
import AllowanceProxy.Proofs.DryRun
import AllowanceProxy.Proofs.Repayment
import AllowanceProxy.Proofs.Numeral
import AllowanceProxy.Proofs.Pricing
import AllowanceProxy.Proofs.TablePrice
import AllowanceProxy.Proofs.Agreement
import AllowanceProxy.Proofs.Independence
import AllowanceProxy.Proofs.Monotone
import AllowanceProxy.Proofs.Owner
import AllowanceProxy.Proofs.Provenance
import AllowanceProxy.Proofs.Civil
import AllowanceProxy.Proofs.Rollover
import AllowanceProxy.Proofs.OneByOne
import AllowanceProxy.Proofs.Grants
import AllowanceProxy.Proofs.Question
import AllowanceProxy.Proofs.Assignment
import AllowanceProxy.Proofs.Bookkeeping
import AllowanceProxy.Proofs.PriceFaults
import AllowanceProxy.Proofs.Verdict
import AllowanceProxy.Proofs.Escape
import AllowanceProxy.Proofs.Compact
import AllowanceProxy.Proofs.Decoding
import AllowanceProxy.Proofs.PayloadText
import AllowanceProxy.Proofs.Slots
import AllowanceProxy.Proofs.Rounding
import AllowanceProxy.Proofs.Lookup
import AllowanceProxy.Proofs.RuleHistory
import AllowanceProxy.Proofs.AuditVerdict
import AllowanceProxy.Proofs.Octets
import AllowanceProxy.Proofs.RequestUrl
import AllowanceProxy.Proofs.QuerySegment
import AllowanceProxy.Proofs.RulePages
