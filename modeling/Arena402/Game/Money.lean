/-
Fixed-point money helpers.

Gold is counted in millionths.  The conversion from text runs in Python's default
decimal context, whose precision is 28 digits; the text of an amount and its adjustment
by basis points are integer arithmetic.
-/
import Arena402.Contracts.Dump

namespace Arena402

open Py

/-- The precision of Python's default decimal context. -/
def defaultPrecision : Nat := 28

/-- Python's default decimal context. -/
def defaultContext : Decimal.Context where
  prec := defaultPrecision
  emin := -999999
  emax := 999999

/-- `GOLD_SCALE` -/
def goldScale : Nat := 1000000
/-- `MAX_GOLD_ATOMIC` -/
def maxGoldAtomic : Nat := 10 ^ 38 - 1

/-- What the money helpers raise. -/
inductive MoneyError
  | binaryFloat
  | invalidValue
  | wrongType
  | notFiniteNonNegative
  | tooManyPlaces
  | exceedsBound
  /-- `decimal.Overflow`, which `gold` lets through. -/
  | overflow
  | atomicNotInteger
  | atomicOutsideBound
  | negativeAdjusted
  | basisPointsOutsideBound
  | adjustedOutsideBound
deriving DecidableEq, Repr

/-- The text of an error. -/
def MoneyError.message : MoneyError → String
  | .binaryFloat => "gold values must not use binary floating point"
  | .invalidValue => "invalid gold value"
  | .wrongType => "gold value must be a string, integer, or Decimal"
  | .notFiniteNonNegative => "gold value must be finite and non-negative"
  | .tooManyPlaces => "gold value supports at most six decimal places"
  | .exceedsBound => "gold value exceeds the Arena bound"
  | .overflow => "[<class 'decimal.Overflow'>]"
  | .atomicNotInteger => "atomic gold must be an integer"
  | .atomicOutsideBound => "atomic gold is outside the Arena bound"
  | .negativeAdjusted => "cannot adjust a negative value"
  | .basisPointsOutsideBound => "basis-point adjustment is outside the Arena bound"
  | .adjustedOutsideBound => "adjusted gold value is outside the Arena bound"

/-- What a caller may hand to `gold`. -/
inductive GoldValue
  | bool (b : Bool)
  | float
  | int (n : Int)
  | decimal (d : Decimal.Parsed)
  | text (cs : List Char)
  | other

/-- The first half of `gold`: the value as a decimal. -/
def goldParsed : GoldValue → Except MoneyError Decimal.Parsed
  | .bool _ | .float => .error .binaryFloat
  | .int n => .ok (.finite (n < 0) (Decimal.ofNat n.natAbs))
  | .decimal d => .ok d
  | .text cs =>
    match Decimal.ofText cs with
    | some d => .ok d
    | none => .error .invalidValue
  | .other => .error .wrongType

/-- The atomic amount of a product; `none` is `Overflow`. -/
def goldOfProduct : Option Decimal → Except MoneyError Nat
  | none => .error .overflow
  | some atomic =>
    if !atomic.eq atomic.toIntegralValue then .error .tooManyPlaces
    else if maxGoldAtomic < atomic.toNat then .error .exceedsBound
    else .ok atomic.toNat

/-- The second half of `gold`: the atomic amount of a non-negative decimal. -/
def goldAtomic (parsed : Decimal) : Except MoneyError Nat :=
  goldOfProduct (Decimal.mulIn defaultContext parsed (Decimal.ofNat goldScale))

/-- `gold`: a gold-denominated value in atomic units. -/
def gold (value : GoldValue) : Except MoneyError Nat :=
  match goldParsed value with
  | .error e => .error e
  | .ok (.finite negative d) =>
    if negative && d.coeff ≠ 0 then .error .notFiniteNonNegative else goldAtomic d
  | .ok _ => .error .notFiniteNonNegative

/-- `text.rstrip("0")`. -/
def rstripZeros (cs : List Char) : List Char :=
  (cs.reverse.dropWhile (· = '0')).reverse

/-- `format_gold`: the gold-denominated text of an atomic amount. -/
def formatGold : GoldValue → Except MoneyError (List Char)
  | .int valueAtomic =>
    if valueAtomic < 0 || (maxGoldAtomic : Int) < valueAtomic then .error .atomicOutsideBound
    else
      let whole := valueAtomic.toNat / goldScale
      let fraction := valueAtomic.toNat % goldScale
      if fraction = 0 then .ok (toString whole).toList
      else .ok (rstripZeros ((toString whole).toList ++ '.' :: (padded 6 fraction).toList))
  | _ => .error .atomicNotInteger

/-- `apply_basis_points`: a signed basis-point delta, rounded half up. -/
def applyBasisPoints (valueAtomic basisPoints : Int) : Except MoneyError Int :=
  if valueAtomic < 0 then .error .negativeAdjusted
  else if basisPoints < -10000 || 1000000 < basisPoints then .error .basisPointsOutsideBound
  else
    let numerator := valueAtomic * (10000 + basisPoints)
    let result := (numerator + 5000).fdiv 10000
    if result < 0 || (maxGoldAtomic : Int) < result then .error .adjustedOutsideBound
    else .ok result

end Arena402
