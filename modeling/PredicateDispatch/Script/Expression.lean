import PredicateDispatch.Script.Query

/-!
# Expressions and steps

An expression builds a value, calls functions or runs a step; it is also what scripts register as
implementations and closures.  A step is a query, or has expressions as operands.
-/

namespace PredicateDispatch.Script

mutual

inductive Expression where
  | invalid
  -- Values of the base library.
  | int (n : Int)
  | real (x : Float)
  | character (c : Char)
  | text (s : String)
  | list (items : List Expression)
  | map (bindings : List Association)
  /-- A value inside so many lists of one element. -/
  | nest (depth : Nat) (inner : Expression)
  | repeated (count : Nat) (s : String)
  /-- The integers below a bound. -/
  | range (count : Nat)
  -- Values of every registry.
  | null
  | boolean (truth : Bool)
  | predicate (type : PredicateRef)
  | function (function : FunctionRef)
  | closure (name : String) (body : Expression)
  | tagged (tag : Option PredicateRef) (payload : Content)
  -- Names.
  | recall (name : String)
  /-- An argument of the implementation or closure around the expression. -/
  | argument (index : Nat)
  -- Actions.
  | call (function : FunctionRef) (arguments : List Expression)
  | apply (callee : Expression) (arguments : List Expression)
  | retag (type : PredicateRef) (inner : Expression)
  | cast (type : PredicateRef) (inner : Expression)
  | typeOf (inner : Expression)
  | perform (step : Step)
  -- Control.
  | sequence (parts : List Expression)
  | choose (condition consequence alternative : Expression)
  | rescue (attempt alternative : Expression)
  | fail (error : Error)
  -- Numbers.
  | less (left right : Expression)
  | isEven (inner : Expression)
  | sum (type : PredicateRef) (terms : List Expression)

/-- The payload of a value that is built with a tag of its own. -/
inductive Content where
  | invalid
  | null
  | boolean (truth : Bool)
  | int (n : Int)
  | real (x : Float)
  | text (s : String)
  | list (items : List Expression)
  | map (bindings : List Association)
  | predicate (type : PredicateRef)
  /-- The payload of another value. -/
  | ofValue (inner : Expression)

structure Association where
  key : Expression
  value : Expression

inductive Step where
  | invalid
  | query (query : Query)
  | register (function : FunctionRef) (types : List PredicateRef) (returns : PredicateRef)
      (body : Expression)
  | setDefault (function : FunctionRef) (returns : PredicateRef) (body : Expression)
  /-- Keeps the value under a name, if one is given. -/
  | eval (inner : Expression) (name : Option String)
  | call (function : FunctionRef) (arguments : List Expression)
  | callNamed (name : String) (arguments : List Expression)
  /-- Runs the entry for given types, or the default, on any arguments. -/
  | invoke (function : FunctionRef) (types : List PredicateRef) (arguments : List Expression)
  | cast (type : PredicateRef) (inner : Expression)
  | castOrFail (type : PredicateRef) (inner : Expression) (function : String)
  | isCoercible (type : PredicateRef) (inner : Expression)
  | toText (function : FunctionRef) (inner : Expression)
  | inspect (inner : Expression)
  | equality (left right : Expression)
  | compareNumbers (left right : Expression)
  | length (inner : Expression)

end

end PredicateDispatch.Script
