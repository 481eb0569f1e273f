import LispCalls.Text.Repertoire
import LispCalls.Text.Blank
import LispCalls.Text.Quoted
import LispCalls.Decimal.Binary64
import LispCalls.Decimal.Shortest
import LispCalls.Decimal.Layout
import LispCalls.Arity
import LispCalls.Fault
import LispCalls.Operator
import LispCalls.Value
import LispCalls.Value.Text
import LispCalls.Value.Inspect
import LispCalls.Value.Equality
import LispCalls.Value.Weight
import LispCalls.Operator.Fold
import LispCalls.Event
import LispCalls.Table
import LispCalls.Report
import LispCalls.Settings
import LispCalls.Trace
import LispCalls.Log
import LispCalls.Interpreter
import LispCalls.Proofs.Binary64.Packing
import LispCalls.Proofs.Binary64.Equality
import LispCalls.Proofs.Binary64.Sums
import LispCalls.Proofs.Binary64.Units
import LispCalls.Proofs.Binary64.Integers
import LispCalls.Proofs.Binary64.Words
import LispCalls.Proofs.Binary64.Fields
import LispCalls.Proofs.Decimal.Rounding
import LispCalls.Proofs.Binary64.Nearest
import LispCalls.Proofs.Messages
import LispCalls.Proofs.Decimal.Shortest
import LispCalls.Proofs.Decimal.Numerals
import LispCalls.Proofs.Decimal.Positional
import LispCalls.Proofs.Escapes
import LispCalls.Proofs.Separated
import LispCalls.Proofs.Equality
import LispCalls.Proofs.PrintedValues
import LispCalls.Proofs.PrintedNumbers
import LispCalls.Proofs.InspectedValues
import LispCalls.Proofs.Operands
import LispCalls.Proofs.Splitting
import LispCalls.Proofs.NeutralOperands
import LispCalls.Proofs.SumStart
import LispCalls.Proofs.ArgumentOrder
import LispCalls.Proofs.WholeNumbers
import LispCalls.Proofs.Congruence
import LispCalls.Proofs.Script
import LispCalls.Proofs.Arithmetic
import LispCalls.Proofs.Calls
import LispCalls.Proofs.CallDepth
import LispCalls.Proofs.SpanTree
import LispCalls.Proofs.Confinement
import LispCalls.Proofs.Lines
import LispCalls.Proofs.FailFast
import LispCalls.Proofs.ArityCheck
import LispCalls.Proofs.DispatchErrors
import LispCalls.Proofs.Forwarding
import LispCalls.Proofs.Settings
import LispCalls.Proofs.Keywords
import LispCalls.Proofs.Bindings
import LispCalls.Proofs.Registration
import LispCalls.Proofs.Rebindings
import LispCalls.Proofs.Overrides
import LispCalls.Proofs.Reports
import LispCalls.Proofs.TaggedReports
