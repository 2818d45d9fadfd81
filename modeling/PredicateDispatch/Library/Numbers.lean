import PredicateDispatch.Error

/-!
# Numbers

Integers are exact, reals are doubles.  Division of integers rounds down while the remainder takes the
sign of the dividend.  Integers are compared exactly; as soon as a real takes part, both numbers are
compared as doubles.
-/

namespace PredicateDispatch.Numbers

inductive Arithmetic where
  | add
  | sub
  | times
  | divide
  | modulo
  | pow
deriving DecidableEq, Repr

def intDivide (a b : Int) : Except Error Int :=
  if b = 0 then .error .divisionByZero else .ok (a.fdiv b)

def intModulo (a b : Int) : Except Error Int :=
  if b = 0 then .error .divisionByZero else .ok (a.tmod b)

def intPow (base exponent : Int) : Except Error Int :=
  if exponent < 0 then .error (.argument (.negativePower exponent))
  else if 0x100000000 ≤ exponent then .error (.argument (.hugePower exponent))
  else .ok (base.pow exponent.toNat)

def isZero (x : Float) : Bool :=
  Binary64.order x 0 == some .eq

def realDivide (a b : Float) : Except Error Float :=
  if isZero b then .error .divisionByZero else .ok (a / b)

def realModulo (a b : Float) : Except Error Float :=
  if isZero b then .error .divisionByZero else .ok (Binary64.remainder a b)

def onIntegers : Arithmetic → Int → Int → Except Error Int
  | .add, a, b => .ok (a + b)
  | .sub, a, b => .ok (a - b)
  | .times, a, b => .ok (a * b)
  | .divide, a, b => intDivide a b
  | .modulo, a, b => intModulo a b
  | .pow, a, b => intPow a b

def onReals : Arithmetic → Float → Float → Except Error Float
  | .add, a, b => .ok (a + b)
  | .sub, a, b => .ok (a - b)
  | .times, a, b => .ok (a * b)
  | .divide, a, b => realDivide a b
  | .modulo, a, b => realModulo a b
  | .pow, a, b => .ok (a.pow b)

/-- The nearest integer, halves upward. -/
def roundHalfUp (x : Float) : Except Error Int :=
  match Binary64.roundHalfUp? x with
  | some n => .ok n
  | none => .error (.argument (.notFinite x))

/-- The order of two numbers; none if NaN takes part. -/
def compare (a b : Payload) : Except Error (Option Ordering) :=
  match a, b with
  | .int m, .int n => .ok (some (Ord.compare m n))
  | _, _ =>
    match a.real?, b.real? with
    | some x, some y => .ok (Binary64.order x y)
    | _, _ => .error (.type (.incomparable a b))

inductive Comparison where
  | less
  | lessOrEqual
  | greater
  | greaterOrEqual
deriving DecidableEq, Repr

def Comparison.holds : Comparison → Ordering → Bool
  | less, order => order == .lt
  | lessOrEqual, order => order != .gt
  | greater, order => order == .gt
  | greaterOrEqual, order => order != .lt

end PredicateDispatch.Numbers
