import PredicateDispatch.Hierarchy

/-!
# Choosing a signature for actual types

A declared signature accepts actual types of the same number when each declared type is the actual type
at its position or an ancestor of it.  The accepting signatures are ranked by their total distance, and
the nearest one is chosen if it is alone at that distance.  Nothing else breaks a tie.

A total is the sum of the distances at all positions.  The dispatcher adds them up in 32 bits, where the
sum starts again at zero (a build with overflow checks stops there instead): `wrappedRank` and
`wrappedResolve` go by these totals.  `rank` and `resolve` go by the exact sums, and are the same for
every call whose totals all stay below `totalLimit`.
-/

namespace PredicateDispatch

/-- An accepting signature by its position, with its total distance from the actual types. -/
structure Candidate where
  index : Nat
  distance : Nat
deriving DecidableEq, Repr

inductive Resolution where
  | noMatch
  | unique (best : Candidate)
  /-- All candidates at the least distance, at least two, in the order of their positions. -/
  | ambiguous (tied : List Candidate)
deriving DecidableEq, Repr

namespace Hierarchy

def accepts (hierarchy : Hierarchy) : (declared actual : Signature) → Bool
  | [], [] => true
  | declared :: rest, actual :: others =>
    hierarchy.isA declared actual && hierarchy.accepts rest others
  | _, _ => false

/-- The sum of the distances at the positions that both signatures have. -/
def totalDistance (hierarchy : Hierarchy) (metric : Metric) : (declared actual : Signature) → Nat
  | declared :: rest, actual :: others =>
    hierarchy.distance metric actual declared + hierarchy.totalDistance metric rest others
  | _, _ => 0

/-- The same sum in 32 bits. -/
def wrappedDistance (hierarchy : Hierarchy) (metric : Metric) : (declared actual : Signature) → UInt32
  | declared :: rest, actual :: others =>
    (hierarchy.distance metric actual declared).toUInt32 + hierarchy.wrappedDistance metric rest others
  | _, _ => 0

/-- The least total that 32 bits do not hold. -/
def totalLimit : Nat := 0x100000000

def wrappedTotal (hierarchy : Hierarchy) (metric : Metric) (declared actual : Signature) : Nat :=
  (hierarchy.wrappedDistance metric declared actual).toNat

end Hierarchy

/-- Puts a candidate before all that are at least as far. -/
def insertCandidate (candidate : Candidate) : List Candidate → List Candidate
  | [] => [candidate]
  | head :: tail =>
    if candidate.distance ≤ head.distance then candidate :: head :: tail
    else head :: insertCandidate candidate tail

/-- By distance; candidates at one distance keep their order. -/
def sortCandidates (candidates : List Candidate) : List Candidate :=
  candidates.foldr insertCandidate []

/-- The first of a ranking is chosen unless others are as near. -/
def Resolution.ofRanked : List Candidate → Resolution
  | [] => .noMatch
  | best :: rest =>
    match rest.takeWhile fun candidate => candidate.distance == best.distance with
    | [] => .unique best
    | tied => .ambiguous (best :: tied)

namespace Hierarchy

section

variable (hierarchy : Hierarchy) (total : (declared actual : Signature) → Nat)

/-- The accepting signatures as candidates at their totals, positions counted from `start`. -/
def candidatesBy (actual : Signature) : Nat → List Signature → List Candidate
  | _, [] => []
  | start, declared :: rest =>
    if hierarchy.accepts declared actual then
      ⟨start, total declared actual⟩ :: candidatesBy actual (start + 1) rest
    else
      candidatesBy actual (start + 1) rest

/-- The accepting signatures, those at the least total first. -/
def rankBy (signatures : List Signature) (actual : Signature) : List Candidate :=
  sortCandidates (hierarchy.candidatesBy total actual 0 signatures)

def resolveBy (signatures : List Signature) (actual : Signature) : Resolution :=
  .ofRanked (hierarchy.rankBy total signatures actual)

end

/-- The candidates at their exact totals. -/
def candidates (hierarchy : Hierarchy) (metric : Metric) (actual : Signature) (start : Nat)
    (signatures : List Signature) : List Candidate :=
  hierarchy.candidatesBy (hierarchy.totalDistance metric) actual start signatures

/-- The accepting signatures, nearest first by the exact totals. -/
def rank (hierarchy : Hierarchy) (metric : Metric) (signatures : List Signature)
    (actual : Signature) : List Candidate :=
  hierarchy.rankBy (hierarchy.totalDistance metric) signatures actual

def resolve (hierarchy : Hierarchy) (metric : Metric) (signatures : List Signature)
    (actual : Signature) : Resolution :=
  hierarchy.resolveBy (hierarchy.totalDistance metric) signatures actual

/-- The accepting signatures, nearest first by the totals in 32 bits. -/
def wrappedRank (hierarchy : Hierarchy) (metric : Metric) (signatures : List Signature)
    (actual : Signature) : List Candidate :=
  hierarchy.rankBy (hierarchy.wrappedTotal metric) signatures actual

def wrappedResolve (hierarchy : Hierarchy) (metric : Metric) (signatures : List Signature)
    (actual : Signature) : Resolution :=
  hierarchy.resolveBy (hierarchy.wrappedTotal metric) signatures actual

end Hierarchy

end PredicateDispatch
