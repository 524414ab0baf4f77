import TypesetTrace.Journal.Sink
import TypesetTrace.Main
import TypesetTrace.Proofs.Alignment.Estimation
import TypesetTrace.Proofs.Alignment.Neighbours
import TypesetTrace.Proofs.Alignment.Survey
import TypesetTrace.Proofs.Alignment.Tally
import TypesetTrace.Proofs.LineBreaks
import TypesetTrace.Proofs.Log.Accounting
import TypesetTrace.Proofs.Log.ErrorBlock
import TypesetTrace.Proofs.Log.ErrorText
import TypesetTrace.Proofs.Log.Growth
import TypesetTrace.Proofs.Log.Limit
import TypesetTrace.Proofs.Log.LineNumbers
import TypesetTrace.Proofs.Log.Marks
import TypesetTrace.Proofs.Log.Numbers
import TypesetTrace.Proofs.Log.Ownership
import TypesetTrace.Proofs.Log.PackageMessage
import TypesetTrace.Proofs.Log.Packed
import TypesetTrace.Proofs.Log.Resuming
import TypesetTrace.Proofs.Log.Switches
import TypesetTrace.Proofs.Log.WholeLine
import TypesetTrace.Proofs.Navigation.Between
import TypesetTrace.Proofs.Navigation.Centre
import TypesetTrace.Proofs.Navigation.Eligible
import TypesetTrace.Proofs.Navigation.Failure
import TypesetTrace.Proofs.Navigation.Heights
import TypesetTrace.Proofs.Navigation.Isolation
import TypesetTrace.Proofs.Navigation.LateStore
import TypesetTrace.Proofs.Navigation.LineMap
import TypesetTrace.Proofs.Navigation.Provenance
import TypesetTrace.Proofs.Navigation.Retention
import TypesetTrace.Proofs.Navigation.Spelling
import TypesetTrace.Proofs.Number.Finite
import TypesetTrace.Proofs.Number.Overflow
import TypesetTrace.Proofs.Service.Failure
import TypesetTrace.Proofs.Service.Freshness
import TypesetTrace.Proofs.Sync.Agreement
import TypesetTrace.Proofs.Sync.Bounds
import TypesetTrace.Proofs.Sync.Coherence
import TypesetTrace.Proofs.Sync.Inclusion
import TypesetTrace.Proofs.Sync.Lengths
import TypesetTrace.Proofs.Sync.Numerals
import TypesetTrace.Proofs.Sync.PageRecords
import TypesetTrace.Proofs.Sync.PassedOver
import TypesetTrace.Proofs.Sync.RecordDigits
import TypesetTrace.Proofs.Sync.RoundTrip
import TypesetTrace.Proofs.Sync.UnknownAxis
import TypesetTrace.Proofs.Sync.Views
import TypesetTrace.Service.Sending
