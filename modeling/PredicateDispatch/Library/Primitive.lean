import PredicateDispatch.Invocation
import PredicateDispatch.Library.Arguments
import PredicateDispatch.Library.Collections
import PredicateDispatch.Library.Numbers

/-!
# The code of the base library

Each primitive is what one entry of a base function runs.  A primitive that makes values carries the
types to tag them with, and one that renders text carries the function that renders.
-/

namespace PredicateDispatch

inductive Primitive where
  | isIntegral
  | isCharacter
  | intArithmetic (operation : Numbers.Arithmetic) (types : BaseTypes)
  | realArithmetic (operation : Numbers.Arithmetic) (types : BaseTypes)
  | negateNumber (types : BaseTypes)
  | negateBoolean
  | equalPayloads
  | equalNumbers
  | comparison (accepted : Numbers.Comparison)
  | intOfBoolean (types : BaseTypes)
  | intOfCharacter (types : BaseTypes)
  | intOfNumber (types : BaseTypes)
  | displayText (types : BaseTypes)
  | intText (types : BaseTypes)
  | characterText (types : BaseTypes)
  | functionText (types : BaseTypes)
  | predicateText (types : BaseTypes)
  | listText (render : Nat) (types : BaseTypes)
  | mapText (render : Nat) (types : BaseTypes)
  | joinTexts (types : BaseTypes)
  | appendRendered (render : Nat) (types : BaseTypes)
  | prependRendered (render : Nat) (types : BaseTypes)
  | isEmpty
  | size (types : BaseTypes)
  | getItem
  | getCharacter (types : BaseTypes)
  | getBound
  | setItem (types : BaseTypes)
  | setCharacter (types : BaseTypes)
  | setBound (types : BaseTypes)
  | typeOf
  | derive
  | isA
  | retag
  | cast
  | apply
  | printNewline
  | printLine (render : Nat)

namespace Program

variable {Code : Type}

/-- The text that the function `render` answers with. -/
def toText (render : Nat) (value : Value) : Program Code String := do
  match (← call render [value]).payload with
  | .text s => return s
  | other => throw (.type (.notText other))

/-- A binding as `key: value`. -/
def bindingText (render : Nat) (binding : Binding) : Program Code String := do
  let key ← toText render binding.key
  let value ← toText render binding.value
  return key ++ ": " ++ value

def toTexts (render : Nat) (values : List Value) : Program Code (List String) :=
  collect (toText render) [] values

def bindingTexts (render : Nat) (bindings : List Binding) : Program Code (List String) :=
  collect (bindingText render) [] bindings

end Program

namespace Primitive

variable {Code : Type}

/-- What a primitive does with its arguments.  Most compute an answer from the arguments alone. -/
def run : Primitive → List Value → Program Code Value
  | isIntegral, arguments => .done <| .ok <| .boolean <|
    match arguments with
    | value :: _ => (value.payload.real?.map Binary64.isIntegral).getD false
    | [] => false
  | isCharacter, arguments => .done <| .ok <| .boolean <|
    match arguments with
    | value :: _ => value.payload.char?.isSome
    | [] => false
  | intArithmetic operation types, arguments => .done do
    let a ← Arguments.int arguments 0
    let b ← Arguments.int arguments 1
    return types.intValue (← Numbers.onIntegers operation a b)
  | realArithmetic operation types, arguments => .done do
    let a ← Arguments.real arguments 0
    let b ← Arguments.real arguments 1
    return types.realValue (← Numbers.onReals operation a b)
  | negateNumber types, arguments => .done do
    match (← Arguments.value arguments 0).payload with
    | .int n => return types.intValue (-n)
    | _ => return types.realValue (-(← Arguments.real arguments 0))
  | negateBoolean, arguments => .done do
    match (← Arguments.value arguments 0).payload.boolean? with
    | some truth => return .boolean !truth
    | none => throw (.type .notBoolean)
  | equalPayloads, arguments => .done do
    let a ← Arguments.value arguments 0
    let b ← Arguments.value arguments 1
    return .boolean (a.payload == b.payload)
  | equalNumbers, arguments => .done do
    let a ← Arguments.value arguments 0
    let b ← Arguments.value arguments 1
    return .boolean ((← Numbers.compare a.payload b.payload) == some .eq)
  | comparison accepted, arguments => .done do
    let a ← Arguments.value arguments 0
    let b ← Arguments.value arguments 1
    return .boolean (((← Numbers.compare a.payload b.payload).map accepted.holds).getD false)
  | intOfBoolean types, arguments => .done do
    let value ← Arguments.value arguments 0
    return types.intValue (if value.payload.boolean? == some true then 1 else 0)
  | intOfCharacter types, arguments => .done do
    return types.intValue (← Arguments.character arguments 0).toNat
  | intOfNumber types, arguments => .done do
    match (← Arguments.value arguments 0).payload with
    | .int n => return types.intValue n
    | _ => return types.intValue (← Numbers.roundHalfUp (← Arguments.real arguments 0))
  | displayText types, arguments => .done do
    return types.textValue (← Arguments.value arguments 0).payload.display
  | intText types, arguments => .done do
    return types.textValue (toString (← Arguments.int arguments 0))
  | characterText types, arguments => .done do
    return types.textValue (toString (← Arguments.character arguments 0))
  | functionText types, arguments => .done do
    match (← Arguments.value arguments 0).payload with
    | .function callable => return types.textValue ("<fn " ++ callable.name ++ ">")
    | .predicate type => return types.textValue type.name
    | other => throw (.type (.mismatch .function other))
  | predicateText types, arguments => .done do
    return types.textValue (← Arguments.predicate arguments 0).name
  | joinTexts types, arguments => .done do
    let a ← Arguments.text arguments 0
    let b ← Arguments.text arguments 1
    return types.textValue (a ++ b)
  | isEmpty, arguments => .done do
    return .boolean ((← Collections.length (← Arguments.value arguments 0).payload) == 0)
  | size types, arguments => .done do
    return types.intValue (← Collections.length (← Arguments.value arguments 0).payload)
  | getItem, arguments => .done do
    let items ← Arguments.list arguments 0
    let position ← Arguments.position arguments 1 items.length
    return items.getD position .null
  | getCharacter types, arguments => .done do
    let characters := (← Arguments.text arguments 0).toList
    let position ← Arguments.position arguments 1 characters.length
    return types.characterValue (characters.getD position default)
  | getBound, arguments => .done do
    let key ← Arguments.value arguments 1
    return (Collections.lookup key.payload (← Arguments.map arguments 0)).getD .null
  | setItem types, arguments => .done do
    let items ← Arguments.list arguments 0
    let position ← Arguments.position arguments 1 items.length
    return types.listValue (items.set position (← Arguments.value arguments 2))
  | setCharacter types, arguments => .done do
    let characters := (← Arguments.text arguments 0).toList
    let position ← Arguments.position arguments 1 characters.length
    let character ← Arguments.character arguments 2
    return types.textValue (String.ofList (characters.set position character))
  | setBound types, arguments => .done do
    let key ← Arguments.value arguments 1
    let value ← Arguments.value arguments 2
    return types.mapValue (Collections.bindKey key value (← Arguments.map arguments 0))
  | typeOf, arguments => .done do
    return .predicate (← Arguments.value arguments 0).type
  | retag, arguments => .done do
    let value ← Arguments.value arguments 1
    return value.retag (← Arguments.predicate arguments 0)
  | listText render types, arguments => do
    let items ← Arguments.list arguments 0
    return types.textValue (bracketed (← Program.toTexts render items))
  | mapText render types, arguments => do
    let bindings ← Arguments.map arguments 0
    return types.textValue (braced (← Program.bindingTexts render bindings))
  | appendRendered render types, arguments => do
    let right ← Program.toText render (← Arguments.value arguments 1)
    return types.textValue ((← Arguments.text arguments 0) ++ right)
  | prependRendered render types, arguments => do
    let left ← Program.toText render (← Arguments.value arguments 0)
    return types.textValue (left ++ (← Arguments.text arguments 1))
  | derive, arguments => do
    let parent ← Arguments.predicate arguments 0
    let child ← Arguments.predicate arguments 1
    Program.derive parent child
    return .null
  | isA, arguments => do
    let ancestor ← Arguments.predicate arguments 0
    let descendant ← Arguments.predicate arguments 1
    return .boolean ((← Program.inspect).isA ancestor descendant)
  | cast, arguments => do
    let expected ← Arguments.predicate arguments 0
    Program.cast expected (← Arguments.value arguments 1)
  | apply, arguments => do
    let callee ← Arguments.value arguments 0
    Program.apply callee (← Arguments.list arguments 1)
  | printNewline, _ => do
    Program.request (.write "\n")
    return .null
  | printLine render, arguments => do
    let text ← Program.toText render (← Arguments.value arguments 0)
    Program.request (.write (text ++ "\n"))
    return .null

end Primitive

end PredicateDispatch
