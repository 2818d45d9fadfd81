import PredicateDispatch.Proofs.Dispatch.Reachable
import PredicateDispatch.Proofs.Hierarchy.Growth

/-!
# Registries with a past

A registry does not show which of its entries a client registered and which it
added by itself.  Its past does: what clients defined, created and registered,
the latest first.  It is kept for registries whose links join predicates that
exist; whatever else an operation mentions may be any handle.
-/

namespace PredicateDispatch

variable {Code : Type}

/-- What a client did that shows in the functions of a registry. -/
inductive Event where
  /-- A predicate was made together with its membership test. -/
  | defined (type : Predicate) (test : ℕ)
  | created (function : ℕ)
  /-- An entry for these argument types was registered. -/
  | registered (function : ℕ) (arguments : Signature)
  | defaulted (function : ℕ)
deriving DecidableEq

namespace Operation

/-- What an operation adds to the past of a registry. -/
def events (registry : Registry Code) : Operation Code → List Event
  | definePredicate name parent =>
    match (registry.definePredicate name parent).1 with
    | .ok type => [.defined type registry.nextFunction]
    | .error _ => []
  | createFunction _ => [.created registry.nextFunction]
  | register id entry =>
    match registry.function? id with
    | some _ => [.registered id entry.arguments]
    | none => []
  | setDefault id _ =>
    match registry.function? id with
    | some _ => [.defaulted id]
    | none => []
  | _ => []

/-- A link joins predicates that have been created. -/
def LinksKnown (hierarchy : Hierarchy) : Operation Code → Prop
  | definePredicate _ parent => hierarchy.Knows parent
  | derive parent child => hierarchy.Knows parent ∧ hierarchy.Knows child
  | _ => True

end Operation

namespace Registry

/-- Every registry starts with the kernel predicates and their tests. -/
def kernelPast : List Event :=
  (Predicate.kernel.map fun type => .defined type type.id).reverse

/-- The registry is reached by operations on its own predicates that left these
events. -/
inductive Past : Registry Code → List Event → Prop
  | fresh (configuration : Configuration) :
      Past (fresh configuration) kernelPast
  | perform {registry : Registry Code} {events : List Event}
      (operation : Operation Code) :
      Past registry events → operation.CachesUnder registry.metric →
        operation.LinksKnown registry.hierarchy →
          Past (operation.perform registry).2 (operation.events registry ++ events)

theorem Past.reachable {registry : Registry Code} {events : List Event}
    (hpast : registry.Past events) : registry.Reachable := by
  induction hpast with
  | fresh configuration => exact .fresh configuration
  | perform operation _ hcaches _ ih => exact ih.perform operation hcaches

theorem Past.kernelPast_subset {registry : Registry Code} {events : List Event}
    (hpast : registry.Past events) : kernelPast ⊆ events := by
  induction hpast with
  | fresh configuration => exact List.Subset.refl _
  | perform operation _ _ _ ih => exact List.subset_append_of_subset_right _ ih

end Registry

/-! ## Histories -/

/-- A registry with its past. -/
structure History (Code : Type) where
  registry : Registry Code
  events : List Event

namespace History

def start (configuration : Configuration) : History Code :=
  ⟨.fresh configuration, Registry.kernelPast⟩

def step (history : History Code) (operation : Operation Code) : History Code :=
  ⟨(operation.perform history.registry).2,
    operation.events history.registry ++ history.events⟩

/-- The operation is one on predicates of the registry, and caches under its
metric. -/
def admits (history : History Code) : Operation Code → Bool
  | .definePredicate _ parent => decide (history.registry.hierarchy.Knows parent)
  | .derive parent child =>
    decide (history.registry.hierarchy.Knows parent) &&
      decide (history.registry.hierarchy.Knows child)
  | .select _ _ metric useCache _ =>
    !useCache || decide (metric = history.registry.metric)
  | _ => true

def run : History Code → List (Operation Code) → History Code
  | history, [] => history
  | history, operation :: rest => (history.step operation).run rest

def admitsAll : History Code → List (Operation Code) → Bool
  | _, [] => true
  | history, operation :: rest =>
    history.admits operation && (history.step operation).admitsAll rest

/-- The events are the past of the registry. -/
def Holds (history : History Code) : Prop :=
  history.registry.Past history.events

theorem holds_start (configuration : Configuration) :
    (start configuration : History Code).Holds :=
  .fresh configuration

theorem cachesUnder_of_admits {history : History Code}
    {operation : Operation Code} (hadmits : history.admits operation = true) :
    operation.CachesUnder history.registry.metric := by
  cases operation with
  | select function types metric useCache tolerateTie =>
      intro huse
      simpa [admits, huse] using hadmits
  | _ => trivial

theorem linksKnown_of_admits {history : History Code}
    {operation : Operation Code} (hadmits : history.admits operation = true) :
    operation.LinksKnown history.registry.hierarchy := by
  cases operation with
  | definePredicate name parent =>
      have hparent : history.registry.hierarchy.Knows parent :=
        of_decide_eq_true hadmits
      exact hparent
  | derive parent child =>
      obtain ⟨hparent, hchild⟩ := Bool.and_eq_true_iff.mp hadmits
      have hparent_known : history.registry.hierarchy.Knows parent :=
        of_decide_eq_true hparent
      have hchild_known : history.registry.hierarchy.Knows child :=
        of_decide_eq_true hchild
      exact ⟨hparent_known, hchild_known⟩
  | _ => trivial

theorem Holds.step {history : History Code} (hholds : history.Holds)
    {operation : Operation Code} (hadmits : history.admits operation = true) :
    (history.step operation).Holds :=
  hholds.perform operation (cachesUnder_of_admits hadmits)
    (linksKnown_of_admits hadmits)

theorem Holds.run {history : History Code} (hholds : history.Holds)
    {operations : List (Operation Code)}
    (hadmits : history.admitsAll operations = true) :
    (history.run operations).Holds := by
  induction operations generalizing history with
  | nil => exact hholds
  | cons operation rest ih =>
      obtain ⟨hfirst, hrest⟩ := Bool.and_eq_true_iff.mp hadmits
      exact ih (hholds.step hfirst) hrest

end History

end PredicateDispatch
