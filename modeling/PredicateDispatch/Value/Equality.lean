import PredicateDispatch.Value

/-!
# Equality of payloads and values

Payloads are equal by content, an integer and a real through the double nearest to the integer, so
that NaN equals nothing.  Closures are equal by identity, generic functions by number and name,
predicates by number.  Values are equal when payloads and tags are; the elements of collections are
compared as values.
-/

namespace PredicateDispatch

namespace Callable

def same : Callable → Callable → Bool
  | generic id name, generic id' name' => id == id' && name == name'
  | closure identity _, closure identity' _ => identity == identity'
  | _, _ => false

end Callable

/-- Equality of tags: by number, and no tag equals only no tag. -/
def sameTag : Option Predicate → Option Predicate → Bool
  | none, none => true
  | some type, some type' => type.id == type'.id
  | _, _ => false

mutual

def Payload.same : Payload → Payload → Bool
  | .null, .null => true
  | .boolean a, .boolean b => a == b
  | .int a, .int b => a == b
  | .real a, .real b => Binary64.order a b == some .eq
  | .int a, .real b => Binary64.order (Binary64.ofInt a) b == some .eq
  | .real a, .int b => Binary64.order (Binary64.ofInt b) a == some .eq
  | .text a, .text b => a == b
  | .list as, .list bs => sameItems as bs
  | .map as, .map bs => sameBindings as bs
  | .predicate a, .predicate b => a.id == b.id
  | .function a, .function b => a.same b
  | _, _ => false
termination_by structural payload => payload

def Value.same : Value → Value → Bool
  | ⟨payload, tag⟩, ⟨payload', tag'⟩ => payload.same payload' && sameTag tag tag'
termination_by structural value => value

def Binding.same : Binding → Binding → Bool
  | ⟨key, value⟩, ⟨key', value'⟩ => key.same key' && value.same value'
termination_by structural binding => binding

def sameItems : List Value → List Value → Bool
  | [], [] => true
  | a :: as, b :: bs => a.same b && sameItems as bs
  | _, _ => false
termination_by structural items => items

def sameBindings : List Binding → List Binding → Bool
  | [], [] => true
  | a :: as, b :: bs => a.same b && sameBindings as bs
  | _, _ => false
termination_by structural bindings => bindings

end

instance : BEq Payload := ⟨Payload.same⟩
instance : BEq Value := ⟨Value.same⟩

end PredicateDispatch
