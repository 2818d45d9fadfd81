import PredicateDispatch.Predicate
import PredicateDispatch.Number.Binary64

/-!
# Tagged values

A value is a payload with the predicate it is tagged with; dispatch sees the tag, implementations
compute with the payload.  A value without a tag has the type `isAny`.
-/

namespace PredicateDispatch

/-- A function as data: a generic function of a registry, or a closure known by its identity. -/
inductive Callable where
  | generic (id : Nat) (name : String)
  | closure (identity : Nat) (name : String)
deriving DecidableEq, Repr

namespace Callable

def name : Callable → String
  | generic _ name => name
  | closure _ name => name

end Callable

mutual

inductive Payload where
  | null
  | boolean (truth : Bool)
  | int (n : Int)
  | real (x : Float)
  | text (s : String)
  | list (items : List Value)
  /-- Pairs in the order in which their keys were added. -/
  | map (bindings : List Binding)
  | predicate (type : Predicate)
  | function (callable : Callable)

structure Value where
  payload : Payload
  tag : Option Predicate

structure Binding where
  key : Value
  value : Value

end

instance : Inhabited Payload := ⟨.null⟩
instance : Inhabited Value := ⟨⟨.null, none⟩⟩

namespace Payload

def boolean? : Payload → Option Bool
  | boolean truth => some truth
  | _ => none

/-- The integer a payload stands for: an integer, or a real without fractional part. -/
def int? : Payload → Option Int
  | int n => some n
  | real x => Binary64.toInt? x
  | _ => none

/-- The double a payload stands for; an integer is rounded to the nearest one. -/
def real? : Payload → Option Float
  | real x => some x
  | int n => some (Binary64.ofInt n)
  | _ => none

def text? : Payload → Option String
  | text s => some s
  | _ => none

def list? : Payload → Option (List Value)
  | list items => some items
  | _ => none

def map? : Payload → Option (List Binding)
  | map bindings => some bindings
  | _ => none

def predicate? : Payload → Option Predicate
  | predicate type => some type
  | _ => none

def function? : Payload → Option Callable
  | function callable => some callable
  | _ => none

/-- The character an integral payload stands for. -/
def char? (payload : Payload) : Option Char :=
  match payload.int? with
  | some (.ofNat n) => if n.isValidChar then some (Char.ofNat n) else none
  | _ => none

end Payload

namespace Value

def tagged (payload : Payload) (type : Predicate) : Value :=
  ⟨payload, some type⟩

def untagged (payload : Payload) : Value :=
  ⟨payload, none⟩

def null : Value := tagged .null Predicate.null

def boolean (truth : Bool) : Value := tagged (.boolean truth) Predicate.boolean

def predicate (type : Predicate) : Value := tagged (.predicate type) Predicate.predicate

def function (callable : Callable) : Value := tagged (.function callable) Predicate.function

/-- The type that dispatch sees. -/
def type (value : Value) : Predicate :=
  value.tag.getD Predicate.any

def retag (value : Value) (type : Predicate) : Value :=
  { value with tag := some type }

end Value

end PredicateDispatch
