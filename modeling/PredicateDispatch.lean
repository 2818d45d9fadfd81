import PredicateDispatch.Script
import PredicateDispatch.Proofs.Hierarchy.Closures
import PredicateDispatch.Proofs.Hierarchy.Distance
import PredicateDispatch.Proofs.Dispatch.Selection
import PredicateDispatch.Proofs.Dispatch.Alike
import PredicateDispatch.Proofs.Dispatch.Reachable
import PredicateDispatch.Proofs.Dispatch.CacheTransparency
import PredicateDispatch.Proofs.Dispatch.MetricAgreement
import PredicateDispatch.Proofs.Dispatch.Forecast
import PredicateDispatch.Proofs.Registry.Effects
import PredicateDispatch.Proofs.Dispatch.Locality
import PredicateDispatch.Proofs.Membership.Promotion
import PredicateDispatch.Proofs.Membership.Untouched
import PredicateDispatch.Proofs.Membership.CastAnswers
import PredicateDispatch.Proofs.Hierarchy.LinkOrder
import PredicateDispatch.Proofs.Registry.Failures
import PredicateDispatch.Proofs.Registry.Derivation
import PredicateDispatch.Proofs.Registry.Persistence
import PredicateDispatch.Proofs.Report.RoundTrip
import PredicateDispatch.Proofs.Report.Faithful
import PredicateDispatch.Proofs.Dispatch.FewArguments
import PredicateDispatch.Proofs.Program.Yields
import PredicateDispatch.Proofs.Library.BaseTypes
import PredicateDispatch.Proofs.Library.Conservation
import PredicateDispatch.Proofs.Library.Installation
import PredicateDispatch.Proofs.Library.Unambiguous
import PredicateDispatch.Proofs.Resolution.Specificity
import PredicateDispatch.Proofs.Membership.Subtree
import PredicateDispatch.Proofs.Membership.Coercion
import PredicateDispatch.Proofs.Dispatch.Termination
import PredicateDispatch.Proofs.Membership.Casts
import PredicateDispatch.Proofs.Dispatch.RegistrationOrder
import PredicateDispatch.Proofs.Dispatch.FunctionValues
import PredicateDispatch.Proofs.Library.Rendering
import PredicateDispatch.Proofs.Library.Joining
import PredicateDispatch.Proofs.Library.Sequences
import PredicateDispatch.Proofs.Number.Comparison
import PredicateDispatch.Proofs.Value.Equality
import PredicateDispatch.Proofs.Library.Maps
import PredicateDispatch.Proofs.Library.Comparisons
import PredicateDispatch.Proofs.Library.Arithmetic
import PredicateDispatch.Proofs.Library.Reflection
import PredicateDispatch.Proofs.Library.Membership
import PredicateDispatch.Proofs.Library.Printing
import PredicateDispatch.Proofs.Hierarchy.Walk
import PredicateDispatch.Proofs.Library.Bounds
