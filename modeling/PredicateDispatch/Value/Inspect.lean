import PredicateDispatch.Value
import PredicateDispatch.Number.Decimal
import PredicateDispatch.Text

/-!
# Inspection text of values

Error messages show a payload with its kind: numbers in the marked layout, text quoted, and the tags of
the elements of a collection.
-/

namespace PredicateDispatch

/-- A predicate with its number, as in `isInt#6`. -/
def Predicate.numbered (type : Predicate) : String :=
  type.name ++ "#" ++ toString type.id

def Callable.inspect : Callable → String
  | .generic id name =>
    "Function(Generic(GenericRef \x7b id: FunctionId(" ++ toString id ++ "), name: " ++
      Text.quoted name ++ " \x7d))"
  | .closure _ name => "Function(Closure(Closure \x7b name: " ++ Text.quoted name ++ " \x7d))"

def inspectTag : Option Predicate → String
  | none => "None"
  | some type => "Some(" ++ type.numbered ++ ")"

mutual

def Payload.inspect : Payload → String
  | .null => "Null"
  | .boolean truth => if truth then "Bool(true)" else "Bool(false)"
  | .int n => "Int(" ++ toString n ++ ")"
  | .real x => "Real(" ++ Decimal.marked x ++ ")"
  | .text s => "Str(" ++ Text.quoted s ++ ")"
  | .list items => "List([" ++ ", ".intercalate (inspectItems items) ++ "])"
  | .map bindings => "Map([" ++ ", ".intercalate (inspectBindings bindings) ++ "])"
  | .predicate type => "Pred(" ++ type.numbered ++ ")"
  | .function callable => callable.inspect
termination_by structural payload => payload

def Value.inspect : Value → String
  | ⟨payload, tag⟩ =>
    "Value \x7b payload: " ++ payload.inspect ++ ", tag: " ++ inspectTag tag ++ " \x7d"
termination_by structural value => value

def Binding.inspect : Binding → String
  | ⟨key, value⟩ => "(" ++ key.inspect ++ ", " ++ value.inspect ++ ")"
termination_by structural binding => binding

def inspectItems : List Value → List String
  | [] => []
  | value :: rest => value.inspect :: inspectItems rest
termination_by structural items => items

def inspectBindings : List Binding → List String
  | [] => []
  | binding :: rest => binding.inspect :: inspectBindings rest
termination_by structural bindings => bindings

end

end PredicateDispatch
