import PredicateDispatch.Value
import PredicateDispatch.Number.Decimal

/-!
# Display text of values

The display text of a value is that of its payload: text as it is, a number in the plain layout, a
function or a predicate by its name, and a collection with its elements between brackets.
-/

namespace PredicateDispatch

def bracketed (items : List String) : String :=
  "[" ++ ", ".intercalate items ++ "]"

def braced (items : List String) : String :=
  "\x7b" ++ ", ".intercalate items ++ "\x7d"

mutual

def Payload.display : Payload → String
  | .null => "null"
  | .boolean truth => if truth then "true" else "false"
  | .int n => toString n
  | .real x => Decimal.plain x
  | .text s => s
  | .list items => bracketed (displayItems items)
  | .map bindings => braced (displayBindings bindings)
  | .predicate type => type.name
  | .function callable => callable.name
termination_by structural payload => payload

def Value.display : Value → String
  | ⟨payload, _⟩ => payload.display
termination_by structural value => value

def Binding.display : Binding → String
  | ⟨key, value⟩ => key.display ++ ": " ++ value.display
termination_by structural binding => binding

def displayItems : List Value → List String
  | [] => []
  | value :: rest => value.display :: displayItems rest
termination_by structural items => items

def displayBindings : List Binding → List String
  | [] => []
  | binding :: rest => binding.display :: displayBindings rest
termination_by structural bindings => bindings

end

end PredicateDispatch
