import PredicateDispatch.Number.Binary64

/-!
# Shortest decimals of doubles

A double is written with the fewest decimal digits that read back to it.  Of the decimals with that many
digits the nearest to the double is taken, and of two equally near ones the larger.  Two layouts share
the digits: the plain one never uses an exponent, the marked one always shows that the number is a real.
-/

namespace PredicateDispatch.Decimal

open Float.Model
open Binary64 (twoPow)

/-- The power of ten of an exponent, one if the exponent is negative. -/
def tenPow (exponent : Int) : Nat :=
  Nat.pow 10 exponent.toNat

/-- The numbers nearer to `mantissa * 2 ^ exponent` than to any other double, multiplied by
`4 / 2 ^ exponent`.  The ends belong to it when `closed`. -/
structure Interval where
  lower : Nat
  upper : Nat
  closed : Bool

/-- The numbers that round to a double.  Below a power of two the next double is half as far away. -/
def Interval.around (mantissa : Nat) (exponent : Int) : Interval where
  lower := 4 * mantissa -
    (if mantissa = 0x10000000000000 ∧ Format.binary64.minExponent < exponent then 1 else 2)
  upper := 4 * mantissa + 2
  closed := mantissa % 2 == 0

/-- Whether `count * 10 ^ place` reads back, both sides multiplied by powers that make them whole. -/
def Interval.holds (interval : Interval) (exponent : Int) (count : Nat) (place : Int) : Bool :=
  let decimal := 4 * count * tenPow place * twoPow (-exponent)
  let scale := tenPow (-place) * twoPow exponent
  if interval.closed then
    interval.lower * scale ≤ decimal && decimal ≤ interval.upper * scale
  else
    interval.lower * scale < decimal && decimal < interval.upper * scale

/-- Digits before a power of ten: the number is `digits * 10 ^ place`. -/
structure Digits where
  digits : Nat
  place : Int
deriving DecidableEq, Repr

/-- The multiple of `10 ^ place` that reads back, if one of the two neighbours of the double does. -/
def atPlace? (mantissa : Nat) (exponent place : Int) : Option Digits :=
  let numerator := mantissa * twoPow exponent * tenPow (-place)
  let denominator := twoPow (-exponent) * tenPow place
  let below := numerator / denominator
  let interval := Interval.around mantissa exponent
  let belowHolds := interval.holds exponent below place
  let aboveHolds := interval.holds exponent (below + 1) place
  if belowHolds && aboveHolds then
    if 2 * (numerator % denominator) < denominator then some ⟨below, place⟩
    else some ⟨below + 1, place⟩
  else if belowHolds then some ⟨below, place⟩
  else if aboveHolds then some ⟨below + 1, place⟩
  else none

/-- The first place, from the left, at which a decimal reads back; after `steps` places, that place. -/
def search (mantissa : Nat) (exponent : Int) : Nat → Int → Digits
  | 0, place =>
    ⟨mantissa * twoPow exponent * tenPow (-place) / (twoPow (-exponent) * tenPow place), place⟩
  | steps + 1, place =>
    match atPlace? mantissa exponent place with
    | some found => found
    | none => search mantissa exponent steps (place - 1)

def decimalLength (n : Nat) : Nat :=
  (Nat.toDigits 10 n).length

/-- The place of the first digit of a positive finite double; every one is above `10 ^ (-400)`. -/
def leadingPlace (mantissa : Nat) (exponent : Int) : Int :=
  decimalLength (mantissa * twoPow exponent * tenPow 400 / twoPow (-exponent)) - 401

/-- The shortest decimal of a positive finite double.  Seventeen digits always read back. -/
def shortest (mantissa : Nat) (exponent : Int) : Digits :=
  search mantissa exponent 17 (leadingPlace mantissa exponent)

/-- The digits without trailing zeros, and how many of them stand before the point. -/
def Digits.spelled (value : Digits) : List Char × Int :=
  let all := Nat.toDigits 10 value.digits
  ((all.reverse.dropWhile (· == '0')).reverse, all.length + value.place)

/-- Written out with a point, `.0` added to a whole number if `marked`. -/
def positional (marked : Bool) (digits : List Char) (point : Int) : List Char :=
  if point ≤ 0 then
    '0' :: '.' :: List.replicate (-point).toNat '0' ++ digits
  else if point < digits.length then
    digits.take point.toNat ++ '.' :: digits.drop point.toNat
  else
    digits ++ List.replicate (point.toNat - digits.length) '0' ++ (if marked then ['.', '0'] else [])

/-- Written with one digit before the point and a power of ten. -/
def scientific (digits : List Char) (point : Int) : List Char :=
  digits.take 1 ++ (if digits.length ≤ 1 then [] else '.' :: digits.drop 1) ++
    'e' :: (toString (point - 1)).toList

/-- The plain layout writes all digits out and no `.0`; the marked layout keeps `.0` and turns to a power
of ten below `0.0001` and from `10 ^ 16`. -/
def layout (marked : Bool) (digits : List Char) (point : Int) : List Char :=
  if marked && (point ≤ -4 || 17 ≤ point) then scientific digits point
  else positional marked digits point

def signText : UnpackedFloat.Sign → String
  | .negative => "-"
  | .positive => ""

def text (marked : Bool) (x : Float) : String :=
  match x.toModel.unpack with
  | .notANumber => "NaN"
  | .infinity sign => signText sign ++ "inf"
  | .zero sign => signText sign ++ (if marked then "0.0" else "0")
  | .finite sign mantissa exponent _ =>
    let (digits, point) := (shortest mantissa exponent).spelled
    signText sign ++ String.ofList (layout marked digits point)

/-- The plain layout of a double. -/
def plain (x : Float) : String :=
  text false x

/-- The layout that shows a real as a real. -/
def marked (x : Float) : String :=
  text true x

end PredicateDispatch.Decimal
