import FilterQuery.Compilation.Session
import FilterQuery.Main
import FilterQuery.Proofs.Compilation.Checks
import FilterQuery.Proofs.Query.Acceptance
import FilterQuery.Proofs.Query.RoundTrip
import FilterQuery.Query.Printer
import FilterQuery.Proofs.Schema.Declared
import FilterQuery.Proofs.Schema.Identifier
import FilterQuery.Proofs.Schema.Rearranged
import FilterQuery.Proofs.Schema.Walk
import FilterQuery.Proofs.Compilation.Resolution
import FilterQuery.Proofs.Conversion.Typing
import FilterQuery.Proofs.Compilation.Typing
import FilterQuery.Proofs.Compilation.Faults
import FilterQuery.Proofs.Query.Limits
import FilterQuery.Proofs.Compilation.Nesting
import FilterQuery.Proofs.Compilation.Extension
import FilterQuery.Proofs.Time.Writing
import FilterQuery.Proofs.Filter.Rendering
import FilterQuery.Proofs.Query.Refusal
import FilterQuery.Proofs.Schema.Documents
import FilterQuery.Proofs.Compilation.Remembered
import FilterQuery.Proofs.Number.Integer
import FilterQuery.Proofs.Conversion.Exact
import FilterQuery.Proofs.Conversion.Dates
import FilterQuery.Proofs.Conversion.Finite
import FilterQuery.Proofs.Comparison
