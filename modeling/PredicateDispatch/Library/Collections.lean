import PredicateDispatch.Error
import PredicateDispatch.Value.Equality

/-!
# Collections

Lists, maps and texts have a length; the length and the positions of a text count characters.  A map
finds a key by the first binding whose key has an equal payload.
-/

namespace PredicateDispatch.Collections

def length : Payload → Except Error Nat
  | .list items => .ok items.length
  | .map bindings => .ok bindings.length
  | .text s => .ok s.length
  | other => .error (.type (.noLength other))

/-- The value of the first binding whose key has an equal payload. -/
def lookup (key : Payload) : List Binding → Option Value
  | [] => none
  | binding :: rest =>
    if binding.key.payload == key then some binding.value else lookup key rest

/-- Changes the value of the first binding whose key has an equal payload, or adds a binding. -/
def bindKey (key value : Value) : List Binding → List Binding
  | [] => [⟨key, value⟩]
  | binding :: rest =>
    if binding.key.payload == key.payload then ⟨binding.key, value⟩ :: rest
    else binding :: bindKey key value rest

end PredicateDispatch.Collections
