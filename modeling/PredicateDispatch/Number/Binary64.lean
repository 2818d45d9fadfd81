/-!
# Exact arithmetic on doubles

A finite double is a signed natural number times a power of two.  Integrality, rounding to an integer
and the remainder are computed on that exact value; only results that need not be representable are
rounded, to nearest with ties to even.
-/

namespace PredicateDispatch.Binary64

open Float.Model

/-- The power of two of an exponent, one if the exponent is negative. -/
def twoPow (exponent : Int) : Nat :=
  Nat.pow 2 exponent.toNat

/-- The double nearest to `mantissa * 2 ^ exponent`, infinite beyond the range; `zeroSign` is the sign
of a zero mantissa. -/
def ofScaled (mantissa exponent : Int) (zeroSign : UnpackedFloat.Sign) : Float :=
  .ofModel (.pack (.normalize .binary64 mantissa exponent zeroSign))

/-- The nearest double to an integer. -/
def ofInt (n : Int) : Float :=
  ofScaled n 0 .positive

/-- IEEE order: zeros are equal, and NaN is comparable to nothing. -/
def order (x y : Float) : Option Ordering :=
  x.toModel.unpack.compare y.toModel.unpack

/-- The value of a finite double without fractional part. -/
def toInt? (x : Float) : Option Int :=
  match x.toModel.unpack with
  | .zero _ => some 0
  | .finite sign mantissa exponent _ =>
    if 0 ≤ exponent then
      some (sign.apply (mantissa * twoPow exponent : Nat))
    else
      let unit := twoPow (-exponent)
      if mantissa % unit = 0 then some (sign.apply (mantissa / unit : Nat)) else none
  | _ => none

/-- A finite double with no fractional part. -/
def isIntegral (x : Float) : Bool :=
  (toInt? x).isSome

/-- The nearest integer to a finite double, halves upward. -/
def roundHalfUp? (x : Float) : Option Int :=
  match x.toModel.unpack with
  | .zero _ => some 0
  | .finite sign mantissa exponent _ =>
    if 0 ≤ exponent then
      some (sign.apply (mantissa * twoPow exponent : Nat))
    else
      let unit : Int := twoPow (-exponent)
      some ((2 * sign.apply mantissa + unit) / (2 * unit))
  | _ => none

/-- What is left of `x` after the whole multiples of `y` that fit in it; it has the sign of `x`. -/
def remainder (x y : Float) : Float :=
  match x.toModel.unpack, y.toModel.unpack with
  | .finite sign mantissa exponent _, .finite _ divisor divisorExponent _ =>
    let common := min exponent divisorExponent
    let left := mantissa * twoPow (exponent - common)
    let right := divisor * twoPow (divisorExponent - common)
    ofScaled (sign.apply (left % right : Nat)) common sign
  | .finite .., .infinity _ => x
  | .zero _, .infinity _ => x
  | .zero _, .finite .. => x
  | _, _ => 0 / 0

end PredicateDispatch.Binary64
