import PredicateDispatch.Library.Primitive

/-!
# Installing the base library

The library registers its predicates and functions by the same operations that are open to everyone, so
it can be installed into any registry, also more than once.  Beside its primitives a registry may hold
code of any other kind.
-/

namespace PredicateDispatch

/-- Code of the base library, or code of another kind. -/
inductive Body (Custom : Type) where
  | primitive (code : Primitive)
  | custom (code : Custom)

namespace Body

variable {Custom : Type}

def meaning (custom : Custom → List Value → Program (Body Custom) Value) :
    Body Custom → List Value → Program (Body Custom) Value
  | .primitive code, arguments => code.run arguments
  | .custom code, arguments => custom code arguments

end Body

namespace Library

variable {Custom : Type}

def registerPrimitive (id : Nat) (types : Signature) (returns : Predicate) (primitive : Primitive) :
    Program (Body Custom) Unit :=
  Program.register id types returns (.primitive primitive)

/-- The membership test of a predicate that has one. -/
def membershipTest (type : Predicate) : Program (Body Custom) Nat := do
  match (← Program.inspect).membershipTest? type with
  | some test => return test
  | none => throw (.unknownFunction type.name)

/-- The predicates.  Reals without fractional part are integers, and integers that are code points of
characters are characters. -/
def installTypes : Program (Body Custom) BaseTypes := do
  let real ← Program.definePredicate "isReal" Predicate.any
  let int ← Program.definePredicate "isInt" real
  let character ← Program.definePredicate "isChar" int
  let string ← Program.definePredicate "isString" Predicate.any
  let list ← Program.definePredicate "isList" Predicate.any
  let map ← Program.definePredicate "isMap" Predicate.any
  registerPrimitive (← membershipTest int) [real] Predicate.boolean .isIntegral
  registerPrimitive (← membershipTest character) [int] Predicate.boolean .isCharacter
  return { real, int, character, string, list, map }

/-- An arithmetic function computes exactly on two integers and with doubles on two reals. -/
def installArithmetic (types : BaseTypes) (name : String) (operation : Numbers.Arithmetic) :
    Program (Body Custom) Nat := do
  let id ← Program.createFunction name
  registerPrimitive id [types.int, types.int] types.int (.intArithmetic operation types)
  registerPrimitive id [types.real, types.real] types.real (.realArithmetic operation types)
  return id

def installComparison (types : BaseTypes) (name : String) (accepted : Numbers.Comparison) :
    Program (Body Custom) Nat := do
  let id ← Program.createFunction name
  registerPrimitive id [types.real, types.real] Predicate.boolean (.comparison accepted)
  return id

def installNumbers (types : BaseTypes) : Program (Body Custom) NumberFunctions := do
  let add ← installArithmetic types "add" .add
  let sub ← installArithmetic types "sub" .sub
  let times ← installArithmetic types "times" .times
  let divide ← installArithmetic types "divide" .divide
  let modulo ← installArithmetic types "mod" .modulo
  let pow ← installArithmetic types "pow" .pow
  let neg ← Program.createFunction "neg"
  registerPrimitive neg [types.real] types.real (.negateNumber types)
  registerPrimitive neg [Predicate.boolean] Predicate.boolean .negateBoolean
  let is ← Program.createFunction "is"
  registerPrimitive is [Predicate.any, Predicate.any] Predicate.boolean .equalPayloads
  registerPrimitive is [types.real, types.real] Predicate.boolean .equalNumbers
  let isLessThan ← installComparison types "isLessThan" .less
  let isLessThanEq ← installComparison types "isLessThanEq" .lessOrEqual
  let isGreaterThan ← installComparison types "isGreaterThan" .greater
  let isGreaterThanEq ← installComparison types "isGreaterThanEq" .greaterOrEqual
  let int ← Program.createFunction "int"
  registerPrimitive int [Predicate.boolean] types.int (.intOfBoolean types)
  registerPrimitive int [types.character] types.int (.intOfCharacter types)
  registerPrimitive int [types.real] types.int (.intOfNumber types)
  return { add, sub, times, divide, modulo, pow, neg, is, isLessThan, isLessThanEq,
           isGreaterThan, isGreaterThanEq, int }

/-- The function that renders values, and the entries of `add` that concatenate. -/
def installText (types : BaseTypes) (add : Nat) : Program (Body Custom) Nat := do
  let str ← Program.createFunction "str"
  registerPrimitive str [Predicate.any] types.string (.displayText types)
  registerPrimitive str [types.int] types.string (.intText types)
  registerPrimitive str [types.character] types.string (.characterText types)
  registerPrimitive str [Predicate.function] types.string (.functionText types)
  registerPrimitive str [Predicate.predicate] types.string (.predicateText types)
  registerPrimitive str [types.list] types.string (.listText str types)
  registerPrimitive str [types.map] types.string (.mapText str types)
  registerPrimitive add [types.string, types.string] types.string (.joinTexts types)
  registerPrimitive add [types.string, Predicate.any] types.string (.appendRendered str types)
  registerPrimitive add [Predicate.any, types.string] types.string (.prependRendered str types)
  return str

def installCollections (types : BaseTypes) : Program (Body Custom) CollectionFunctions := do
  let isEmpty ← Program.createFunction "isEmpty"
  registerPrimitive isEmpty [types.list] Predicate.boolean .isEmpty
  registerPrimitive isEmpty [types.string] Predicate.boolean .isEmpty
  registerPrimitive isEmpty [types.map] Predicate.boolean .isEmpty
  let size ← Program.createFunction "size"
  registerPrimitive size [types.list] types.int (.size types)
  registerPrimitive size [types.string] types.int (.size types)
  registerPrimitive size [types.map] types.int (.size types)
  let get ← Program.createFunction "get"
  registerPrimitive get [types.list, types.int] Predicate.any .getItem
  registerPrimitive get [types.string, types.int] types.character (.getCharacter types)
  registerPrimitive get [types.map, Predicate.any] Predicate.any .getBound
  let set ← Program.createFunction "set"
  registerPrimitive set [types.list, types.int, Predicate.any] types.list (.setItem types)
  registerPrimitive set [types.string, types.int, types.character] types.string
    (.setCharacter types)
  registerPrimitive set [types.map, Predicate.any, Predicate.any] types.map (.setBound types)
  return { isEmpty, size, get, set }

def installReflection (types : BaseTypes) : Program (Body Custom) ReflectionFunctions := do
  let typeOf ← Program.createFunction "type"
  registerPrimitive typeOf [Predicate.any] Predicate.predicate .typeOf
  let derive ← Program.createFunction "derive"
  registerPrimitive derive [Predicate.predicate, Predicate.predicate] Predicate.null .derive
  let isA ← Program.createFunction "isA"
  registerPrimitive isA [Predicate.predicate, Predicate.predicate] Predicate.boolean .isA
  let retag ← Program.createFunction "AS"
  registerPrimitive retag [Predicate.predicate, Predicate.any] Predicate.any .retag
  let cast ← Program.createFunction "as"
  registerPrimitive cast [Predicate.predicate, Predicate.any] Predicate.any .cast
  let apply ← Program.createFunction "apply"
  registerPrimitive apply [Predicate.function, types.list] Predicate.any .apply
  return { typeOf, derive, isA, retag, cast, apply }

def installConsole (str : Nat) : Program (Body Custom) Nat := do
  let println ← Program.createFunction "println"
  registerPrimitive println [] Predicate.null .printNewline
  registerPrimitive println [Predicate.any] Predicate.null (.printLine str)
  return println

/-- Installs everything and answers with the handles. -/
def install : Program (Body Custom) Library := do
  let types ← installTypes
  let numbers ← installNumbers types
  let text ← installText types numbers.add
  let collections ← installCollections types
  let reflection ← installReflection types
  let println ← installConsole text
  return { types, numbers, text, collections, reflection, println }

end Library

end PredicateDispatch
