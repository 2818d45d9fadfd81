import Std.Data.TreeMap
import PredicateDispatch.Predicate

/-!
# The forest of predicates

Every predicate has at most one parent, given to it once by `Hierarchy.link`.  The ancestors and the
descendants of each predicate are kept up to date at every link, so that `isA` is a look-up.  Links may
be made in any order, between trees that are already populated, and on handles whose number has not
been created yet.
-/

namespace PredicateDispatch

/-- How far an actual type is from a declared one: by the links upward only, or by the shorter of the
two directions. -/
inductive Metric where
  | directed
  | symmetric
deriving DecidableEq, Repr

/-- Why a link is refused. -/
inductive LinkError where
  /-- The child's parent is already chosen. -/
  | reparent (child parent existing : Predicate)
  /-- The child is the parent or one of its ancestors. -/
  | cycle (child parent : Predicate)
deriving DecidableEq, Repr

/-- Stands for the distance to a type that cannot be reached. -/
def unreachableDistance : Nat := 100

structure Hierarchy where
  /-- In the order of creation, so that a predicate's number is its position. -/
  predicates : Array Predicate := #[]
  parents : Std.TreeMap Nat Predicate := ∅
  /-- Proper ancestors, in no particular order. -/
  ancestors : Std.TreeMap Nat (List Predicate) := ∅
  /-- Proper descendants, in no particular order. -/
  descendants : Std.TreeMap Nat (List Predicate) := ∅

namespace Hierarchy

/-- The predicate that `create` makes next. -/
def fresh (hierarchy : Hierarchy) (name : String) : Predicate :=
  ⟨hierarchy.predicates.size, name⟩

def create (hierarchy : Hierarchy) (name : String) : Hierarchy :=
  { hierarchy with predicates := hierarchy.predicates.push (hierarchy.fresh name) }

def parent? (hierarchy : Hierarchy) (type : Predicate) : Option Predicate :=
  hierarchy.parents[type.id]?

def ancestorsOf (hierarchy : Hierarchy) (type : Predicate) : List Predicate :=
  hierarchy.ancestors.getD type.id []

def descendantsOf (hierarchy : Hierarchy) (type : Predicate) : List Predicate :=
  hierarchy.descendants.getD type.id []

/-- `ancestor` is `descendant` itself or one of its proper ancestors. -/
def isA (hierarchy : Hierarchy) (ancestor descendant : Predicate) : Bool :=
  ancestor.id == descendant.id ||
    (hierarchy.ancestorsOf descendant).any fun type => type.id == ancestor.id

/-- Puts `more` before the list kept for each of `members`. -/
def extend (lists : Std.TreeMap Nat (List Predicate)) (members more : List Predicate) :
    Std.TreeMap Nat (List Predicate) :=
  members.foldl (fun lists type => lists.insert type.id (more ++ lists.getD type.id [])) lists

/-- Puts `child`, with everything below it, under `parent`. -/
def link (hierarchy : Hierarchy) (parent child : Predicate) : Except LinkError Hierarchy :=
  match hierarchy.parent? child with
  | some existing => .error (.reparent child parent existing)
  | none =>
    if hierarchy.isA child parent then
      .error (.cycle child parent)
    else
      let lineage := parent :: hierarchy.ancestorsOf parent
      let subtree := child :: hierarchy.descendantsOf child
      .ok { hierarchy with
        parents := hierarchy.parents.insert child.id parent
        ancestors := extend hierarchy.ancestors subtree lineage
        descendants := extend hierarchy.descendants lineage subtree }

/-- The parent links upward from a predicate, at most `steps` of them. -/
def climb (hierarchy : Hierarchy) : Nat → Predicate → List Predicate
  | 0, _ => []
  | steps + 1, type =>
    match hierarchy.parent? type with
    | none => []
    | some parent => parent :: hierarchy.climb steps parent

/-- The proper ancestors found by walking parent links, nearest first.  There are no more links above
a predicate than it has ancestors. -/
def lineage (hierarchy : Hierarchy) (type : Predicate) : List Predicate :=
  hierarchy.climb (hierarchy.ancestorsOf type).length type

/-- The number of parent links from `source` up to `target`. -/
def typeDistance (hierarchy : Hierarchy) (source target : Predicate) : Nat :=
  if hierarchy.isA target source then
    ((source :: hierarchy.lineage source).findIdx? fun type => type.id == target.id).getD
      unreachableDistance
  else
    unreachableDistance

def distance (hierarchy : Hierarchy) (metric : Metric) (actual declared : Predicate) : Nat :=
  match metric with
  | .directed => hierarchy.typeDistance actual declared
  | .symmetric =>
    min (hierarchy.typeDistance actual declared) (hierarchy.typeDistance declared actual)

/-- The five predicates every registry starts with. -/
def kernel : Hierarchy :=
  [(Predicate.any, Predicate.boolean), (Predicate.any, Predicate.null),
    (Predicate.any, Predicate.function), (Predicate.function, Predicate.predicate)].foldl
    (fun hierarchy pair => (hierarchy.link pair.1 pair.2).toOption.getD hierarchy)
    { predicates := Predicate.kernel.toArray }

end Hierarchy

end PredicateDispatch
