import PredicateDispatch.Script.Expression

/-!
# Meaning of expressions and steps

Expressions and steps mean programs.  Operands are looked up and evaluated from left to right, functions
before predicates before values, and the first failure wins.
-/

namespace PredicateDispatch.Script

/-- The code of a registry that a script drives: primitives, and expressions as implementations. -/
abbrev ScriptCode := Body Expression

/-- The types of the base library that was installed last. -/
def baseTypes : Program ScriptCode BaseTypes := do
  match ← Program.request .library with
  | some library => return library.types
  | none => throw .invalidScript

/-- A value inside so many lists of one element. -/
def nested (types : BaseTypes) : Nat → Value → Value
  | 0, value => value
  | depth + 1, value => nested types depth (types.listValue [value])

def sumInts : List Value → Option Int
  | [] => some 0
  | value :: rest =>
    match value.payload.int?, sumInts rest with
    | some n, some total => some (n + total)
    | _, _ => none

mutual

/-- The program of an expression among the arguments of the code around it. -/
def Expression.eval (caching : Bool) (arguments : List Value) :
    Expression → Program ScriptCode Value
  | .invalid => throw .invalidScript
  | .int n => return (← baseTypes).intValue n
  | .real x => return (← baseTypes).realValue x
  | .character c => return (← baseTypes).characterValue c
  | .text s => return (← baseTypes).textValue s
  | .list items => do
    let types ← baseTypes
    return types.listValue (← evalAll caching arguments [] items)
  | .map bindings => do
    let types ← baseTypes
    return types.mapValue (← evalBindings caching arguments [] bindings)
  | .nest depth inner => do
    let types ← baseTypes
    return nested types depth (← inner.eval caching arguments)
  | .repeated count s => do
    return (← baseTypes).textValue (String.join (List.replicate count s))
  | .range count => do
    let types ← baseTypes
    return types.listValue ((List.range count).map fun (n : Nat) => types.intValue n)
  | .null => return .null
  | .boolean truth => return .boolean truth
  | .predicate type => return .predicate (← type.find)
  | .function function => do Program.functionValue (← function.find)
  | .closure name body => do
    let identity ← Program.request (.makeClosure (.custom body))
    return .function (.closure identity name)
  | .tagged tag payload => do
    match tag with
    | some tag =>
      let type ← tag.find
      return .tagged (← payload.eval caching arguments) type
    | none => return .untagged (← payload.eval caching arguments)
  | .recall name => do
    match ← Program.request (.readVariable name) with
    | some value => return value
    | none => throw .invalidScript
  | .argument index =>
    match arguments[index]? with
    | some value => return value
    | none => throw .invalidScript
  | .call function operands => do
    let id ← function.find
    Program.call id (← evalAll caching arguments [] operands)
  | .apply callee operands => do
    let callee ← callee.eval caching arguments
    Program.apply callee (← evalAll caching arguments [] operands)
  | .retag type inner => do
    let type ← type.find
    return (← inner.eval caching arguments).retag type
  | .cast type inner => do
    let type ← type.find
    Program.cast type (← inner.eval caching arguments)
  | .typeOf inner => return .predicate (← inner.eval caching arguments).type
  | .perform step => do
    let _ ← step.run caching arguments
    return .null
  | .sequence parts => return ((← evalAll caching arguments [] parts).getLast?).getD .null
  | .choose condition consequence alternative => do
    match (← condition.eval caching arguments).payload with
    | .boolean true => consequence.eval caching arguments
    | _ => alternative.eval caching arguments
  | .rescue attempt alternative =>
    (attempt.eval caching arguments).rescue fun _ => alternative.eval caching arguments
  | .fail error => throw error
  | .less left right => do
    let left ← left.eval caching arguments
    let right ← right.eval caching arguments
    return .boolean ((← Numbers.compare left.payload right.payload) == some .lt)
  | .isEven inner => do
    match (← inner.eval caching arguments).payload.int? with
    | some n => return .boolean (n % 2 == 0)
    | none => return .boolean false
  | .sum type terms => do
    let type ← type.find
    match sumInts (← evalAll caching arguments [] terms) with
    | some total => return .tagged (.int total) type
    | none => throw .invalidScript
termination_by structural expression => expression

def Content.eval (caching : Bool) (arguments : List Value) :
    Content → Program ScriptCode Payload
  | .invalid => throw .invalidScript
  | .null => return .null
  | .boolean truth => return .boolean truth
  | .int n => return .int n
  | .real x => return .real x
  | .text s => return .text s
  | .list items => return .list (← evalAll caching arguments [] items)
  | .map bindings => return .map (← evalBindings caching arguments [] bindings)
  | .predicate type => return .predicate (← type.find)
  | .ofValue inner => return (← inner.eval caching arguments).payload
termination_by structural content => content

def Association.eval (caching : Bool) (arguments : List Value) :
    Association → Program ScriptCode Binding
  | ⟨key, value⟩ => do
    let key ← key.eval caching arguments
    return ⟨key, ← value.eval caching arguments⟩
termination_by structural association => association

def Step.run (caching : Bool) (arguments : List Value) : Step → Program ScriptCode Answer
  | .invalid => throw .invalidScript
  | .query query => query.run caching
  | .register function types returns body => do
    let id ← function.find
    let types ← findAll types
    Program.register id types (← returns.find) (.custom body)
    return .optionalPredicate (← Program.function id).predicate?
  | .setDefault function returns body => do
    let id ← function.find
    Program.setDefault id (← returns.find) (.custom body)
    return .nothing
  | .eval inner name => do
    let value ← inner.eval caching arguments
    match name with
    | some name => Program.request (.writeVariable name value)
    | none => pure ()
    return .value value
  | .call function operands => do
    let id ← function.find
    return .value (← Program.call id (← evalAll caching arguments [] operands))
  | .callNamed name operands => do
    return .value (← Program.callNamed name (← evalAll caching arguments [] operands))
  | .invoke function types operands => do
    let id ← function.find
    let types ← findAll types
    let operands ← evalAll caching arguments [] operands
    let selected ← Program.resolve id types false
    match (← Program.function id).task? selected with
    | some task => return .value (← Program.run task operands)
    | none => throw .invalidScript
  | .cast type inner => do
    let type ← type.find
    return .value (← Program.cast type (← inner.eval caching arguments))
  | .castOrFail type inner function => do
    let type ← type.find
    return .value (← Program.castOrFail function type (← inner.eval caching arguments))
  | .isCoercible type inner => do
    let type ← type.find
    return .truth (← Program.isCoercible type (← inner.eval caching arguments))
  | .toText function inner => do
    let id ← function.find
    return .text (← Program.toText id (← inner.eval caching arguments))
  | .inspect inner => return .inspection (.of (← inner.eval caching arguments))
  | .equality left right => do
    let left ← left.eval caching arguments
    let right ← right.eval caching arguments
    return .equality (left == right) (left.payload == right.payload) (right == left)
  | .compareNumbers left right => do
    let left ← left.eval caching arguments
    let right ← right.eval caching arguments
    return .order (← Numbers.compare left.payload right.payload)
  | .length inner => do
    return .number (← Collections.length (← inner.eval caching arguments).payload)
termination_by structural step => step

/-- The values of expressions behind earlier values, the latest of which comes first. -/
def evalAll (caching : Bool) (arguments : List Value) :
    (earlier : List Value) → List Expression → Program ScriptCode (List Value)
  | earlier, [] => return earlier.reverse
  | earlier, expression :: rest => do
    evalAll caching arguments ((← expression.eval caching arguments) :: earlier) rest
termination_by structural _ expressions => expressions

/-- The bindings of associations behind earlier bindings, the latest of which comes first. -/
def evalBindings (caching : Bool) (arguments : List Value) :
    (earlier : List Binding) → List Association → Program ScriptCode (List Binding)
  | earlier, [] => return earlier.reverse
  | earlier, association :: rest => do
    evalBindings caching arguments ((← association.eval caching arguments) :: earlier) rest
termination_by structural _ associations => associations

end

/-- What the code of a scripted registry means. -/
def meaning (caching : Bool) : ScriptCode → List Value → Program ScriptCode Value :=
  Body.meaning fun body arguments => body.eval caching arguments

end PredicateDispatch.Script
