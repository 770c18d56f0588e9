/-
Decimal floating point, as Python's `decimal` module computes it.

A finite non-negative number is a coefficient and a power of ten.  Construction
from text is exact; arithmetic rounds its exact result to the context's precision,
half to even; comparison is exact whatever the precision.  `mul` leaves the exponent
limits of the context out, for factors that come nowhere near them; `mulIn` has them:
a result above `Emax` raises `Overflow`, and one below `Emin` keeps only the digits
down to `Etiny`, silently.  The limits of construction itself, far beyond those of the
context, are left out.
-/
import Arena402.Lib.Text

namespace Py

/-- A finite non-negative decimal: `coeff * 10 ^ exp`. -/
structure Decimal where
  coeff : Nat
  exp : Int
deriving DecidableEq, Repr

namespace Decimal

/-- How many digits the coefficient is written with; zero is written with one. -/
def numDigits (n : Nat) : Nat :=
  (Nat.toDigits 10 n).length

/-- The number a decimal denotes. -/
def val (d : Decimal) : ℚ :=
  d.coeff * (10 : ℚ) ^ d.exp

/-- The number can be written with `n` digits and a power of ten. -/
def HasDigits (n : Nat) (d : Decimal) : Prop :=
  ∃ (c : Nat) (e : Int), c < 10 ^ n ∧ d.val = c * (10 : ℚ) ^ e

/-! ### Rounding -/

/-- `n / 10 ^ k`, rounded half to even. -/
def roundHalfEven (n k : Nat) : Nat :=
  let q := n / 10 ^ k
  let r := n % 10 ^ k
  if 2 * r < 10 ^ k then q
  else if 10 ^ k < 2 * r then q + 1
  else if q % 2 = 0 then q else q + 1

/-- Round a result to `prec` digits.  Rounding up may carry into one digit more,
    which is then a trailing zero and is dropped. -/
def fix (prec : Nat) (d : Decimal) : Decimal :=
  let k := numDigits d.coeff - prec
  if k = 0 then d
  else
    let c := roundHalfEven d.coeff k
    if prec < numDigits c then ⟨c / 10, d.exp + k + 1⟩ else ⟨c, d.exp + k⟩

/-- Multiplication in a context of `prec` digits. -/
def mul (prec : Nat) (a b : Decimal) : Decimal :=
  fix prec ⟨a.coeff * b.coeff, a.exp + b.exp⟩

/-! ### Contexts -/

/-- The precision and the exponent limits of a context; it rounds half to even and traps
    `Overflow`, but neither `Inexact` nor `Underflow`. -/
structure Context where
  prec : Nat
  emin : Int
  emax : Int

/-- The smallest exponent of a result. -/
def Context.etiny (ctx : Context) : Int :=
  ctx.emin - ctx.prec + 1

/-- `d.adjusted()`: the exponent of the leading digit. -/
def adjusted (d : Decimal) : Int :=
  d.exp + numDigits d.coeff - 1

/-- Finish a result in a context; `none` is `Overflow`. -/
def fixIn (ctx : Context) (d : Decimal) : Option Decimal :=
  if d.coeff = 0 then some ⟨0, min (max d.exp ctx.etiny) ctx.emax⟩
  else if ctx.emax < d.adjusted then none
  else if d.adjusted < ctx.emin then
    -- subnormal: the digits below `Etiny` are rounded away, however few remain
    if d.exp < ctx.etiny then some ⟨roundHalfEven d.coeff (ctx.etiny - d.exp).toNat, ctx.etiny⟩
    else some d
  else
    let rounded := fix ctx.prec d
    if ctx.emax < rounded.adjusted then none else some rounded

/-- Multiplication in a context. -/
def mulIn (ctx : Context) (a b : Decimal) : Option Decimal :=
  fixIn ctx ⟨a.coeff * b.coeff, a.exp + b.exp⟩

/-- `Decimal(n)` for an integer. -/
def ofNat (n : Nat) : Decimal :=
  ⟨n, 0⟩

/-- `to_integral_value()`: rounds to an integer, but not to the context's precision. -/
def toIntegralValue (d : Decimal) : Decimal :=
  if 0 ≤ d.exp then d else ⟨roundHalfEven d.coeff (-d.exp).toNat, 0⟩

/-- `int(d)`, which truncates. -/
def toNat (d : Decimal) : Nat :=
  if 0 ≤ d.exp then d.coeff * 10 ^ d.exp.toNat else d.coeff / 10 ^ (-d.exp).toNat

/-! ### Comparison -/

/-- The coefficient of `d` once its exponent is lowered to `m`. -/
def scaledTo (d : Decimal) (m : Int) : Nat :=
  d.coeff * 10 ^ (d.exp - m).toNat

/-- `a < b`. -/
def lt (a b : Decimal) : Bool :=
  a.scaledTo (min a.exp b.exp) < b.scaledTo (min a.exp b.exp)

/-- `a == b`, which compares numbers and not representations. -/
def eq (a b : Decimal) : Bool :=
  a.scaledTo (min a.exp b.exp) = b.scaledTo (min a.exp b.exp)

/-! ### Text -/

/-- What `Decimal(text)` can construct. -/
inductive Parsed
  | finite (negative : Bool) (d : Decimal)
  | infinite (negative : Bool)
  | nan
deriving DecidableEq, Repr

/-- The value of `[-+]?\d+`. -/
def parseSigned : List Char → Option Int
  | [] => none
  | c :: rest =>
    let digits := if c = '-' || c = '+' then rest else c :: rest
    if digits.isEmpty || !digits.all Char.isDigit then none
    else
      let n : Int := Nat.ofDigitChars 10 digits 0
      some (if c = '-' then -n else n)

/-- The optional exponent part, up to the end of the text. -/
def parseExponent : List Char → Option Int
  | [] => some 0
  | c :: rest => if c = 'e' || c = 'E' then parseSigned rest else none

/-- The fractional digits after an optional point, and what follows them. -/
def spanFraction : List Char → List Char × List Char
  | [] => ([], [])
  | c :: rest => if c = '.' then rest.span Char.isDigit else ([], c :: rest)

/-- A numeral without its sign. -/
def parseUnsigned (cs : List Char) : Option Decimal :=
  let (int, rest) := cs.span Char.isDigit
  let (frac, rest) := spanFraction rest
  if int.isEmpty && frac.isEmpty then none
  else (parseExponent rest).map fun e =>
    ⟨Nat.ofDigitChars 10 (int ++ frac) 0, e - frac.length⟩

/-- The special values, after the sign, in lower case. -/
def parseSpecial (negative : Bool) (cs : List Char) : Option Parsed :=
  if cs = "inf".toList || cs = "infinity".toList then some (.infinite negative)
  else
    let rest := if cs.head? = some 's' then cs.tail else cs
    if rest.take 3 = "nan".toList && (rest.drop 3).all Char.isDigit then some .nan else none

/-- `Decimal(text)` for a text without digits of other scripts; `none` is
    `InvalidOperation`. -/
def ofChars (text : List Char) : Option Parsed :=
  let cs := (strip text).filter (· ≠ '_')
  let negative := cs.head? = some '-'
  let body := if cs.head? = some '-' || cs.head? = some '+' then cs.tail else cs
  match parseUnsigned body with
  | some d => some (.finite negative d)
  | none => parseSpecial negative (body.map Char.toLower)

/-- `Decimal(text)`, which takes the digits of every script. -/
def ofText (text : List Char) : Option Parsed :=
  ofChars (text.map asciiDigit)

/-- The digits of `d` with the point after `dotplace` of them. -/
def render (d : Decimal) (dotplace : Int) : List Char :=
  let digits := Nat.toDigits 10 d.coeff
  if dotplace ≤ 0 then
    '0' :: '.' :: (List.replicate (-dotplace).toNat '0' ++ digits)
  else if (digits.length : Int) ≤ dotplace then
    digits ++ List.replicate (dotplace - digits.length).toNat '0'
  else digits.take dotplace.toNat ++ '.' :: digits.drop dotplace.toNat

/-- The number of digits left of the point in positional notation. -/
def leftdigits (d : Decimal) : Int :=
  d.exp + numDigits d.coeff

/-- `str(d)`: positional for small exponents, scientific otherwise. -/
def str (d : Decimal) : List Char :=
  if d.exp ≤ 0 && -6 < d.leftdigits then render d d.leftdigits
  else
    let e := d.leftdigits - 1
    render d 1 ++ (if e = 0 then [] else
      'E' :: (if 0 ≤ e then '+' else '-') :: Nat.toDigits 10 e.natAbs)

/-- `format(d, "f")`: always positional. -/
def formatF (d : Decimal) : List Char :=
  render d d.leftdigits

end Decimal

end Py
