import DesignLint.Number.Power

/-! # Binary floating-point numbers

Numbers with a mantissa of 53 bits, an exponent from -1074 on, infinities and a value that is no
number. Every operation computes the exact result and rounds it once, to the nearest number with
ties to the even mantissa:

* `Binary64.round negative num den`: the number nearest to `num / den`;
* `Binary64.add`, `Binary64.mul`, `Binary64.neg`: arithmetic;
* `Binary64.ofInt?`: the number nearest to an integer, if that is finite. -/

namespace DesignLint

/-- A binary floating-point number. -/
inductive Binary64 where
  /-- No number. -/
  | nan
  /-- Infinity with a sign. -/
  | infinity (negative : Bool)
  /-- `mantissa * 2 ^ exponent` with a sign. -/
  | finite (negative : Bool) (mantissa : Nat) (exponent : Int)
  deriving Repr, DecidableEq

namespace Binary64

/-- The least exponent. -/
def minExponent : Int := -1074

/-- The greatest exponent. -/
def maxExponent : Int := 971

/-- The quotient of two numbers, rounded to the nearest natural number with ties to even. -/
def roundQuotient (num den : Nat) : Nat :=
  let quotient := num / den
  match compare (2 * (num % den)) den with
  | .lt => quotient
  | .gt => quotient + 1
  | .eq => if quotient % 2 = 0 then quotient else quotient + 1

/-- Numerator and denominator of `num / den / 2 ^ exponent`. -/
def scaled (num den : Nat) (exponent : Int) : Nat × Nat :=
  (num * twoTo (-exponent).toNat, den * twoTo exponent.toNat)

/-- The number with a mantissa that may be one too long after rounding. -/
def normalized (negative : Bool) (mantissa : Nat) (exponent : Int) : Binary64 :=
  let (mantissa, exponent) :=
    if mantissa = twoTo 53 then (twoTo 52, exponent + 1) else (mantissa, exponent)
  if maxExponent < exponent then infinity negative else finite negative mantissa exponent

/-- The number nearest to `num / den`. -/
def round (negative : Bool) (num den : Nat) : Binary64 :=
  if num = 0 then finite negative 0 minExponent
  else
    let exponent := max ((num.log2 : Int) - den.log2 - 53) minExponent
    let (n, d) := scaled num den exponent
    if n / d < twoTo 53 then normalized negative (roundQuotient n d) exponent
    else
      let (n, d) := scaled num den (exponent + 1)
      normalized negative (roundQuotient n d) (exponent + 1)

/-- Zero. -/
def zero : Binary64 := finite false 0 minExponent

/-- The number nearest to an integer; none if that is infinite. -/
def ofInt? (n : Int) : Option Binary64 :=
  match round (n < 0) n.natAbs 1 with
  | infinity _ => none
  | x => some x

/-- The number with the other sign. -/
def neg : Binary64 → Binary64
  | nan => nan
  | infinity negative => infinity !negative
  | finite negative mantissa exponent => finite (!negative) mantissa exponent

/-- The number nearest to an integer times a power of two; `negative` is the sign of zero. -/
def ofScaled (negative : Bool) (n : Int) (exponent : Int) : Binary64 :=
  round (if n = 0 then negative else n < 0) (n.natAbs * twoTo exponent.toNat)
    (twoTo (-exponent).toNat)

/-- A mantissa with its sign. -/
def signed (negative : Bool) (mantissa : Nat) : Int :=
  if negative then -(mantissa : Int) else mantissa

/-- The sum of two numbers. -/
def add : Binary64 → Binary64 → Binary64
  | nan, _ => nan
  | _, nan => nan
  | infinity a, infinity b => if a = b then infinity a else nan
  | infinity a, finite .. => infinity a
  | finite .., infinity b => infinity b
  | finite a m p, finite b n q =>
    let low := min p q
    ofScaled (a && b)
      (signed a m * twoTo (p - low).toNat + signed b n * twoTo (q - low).toNat) low

/-- The product of two numbers. -/
def mul : Binary64 → Binary64 → Binary64
  | nan, _ => nan
  | _, nan => nan
  | infinity a, infinity b => infinity (a != b)
  | infinity a, finite b n _ => if n = 0 then nan else infinity (a != b)
  | finite a m _, infinity b => if m = 0 then nan else infinity (a != b)
  | finite a m p, finite b n q => ofScaled (a != b) (signed (a != b) (m * n)) (p + q)

/-- The number nearest to `digits * 10 ^ exponent`. Exponents far out of range are answered without
computing the power of ten. -/
def ofDecimal (negative : Bool) (digits : Nat) (exponent : Int) : Binary64 :=
  if digits = 0 then finite negative 0 minExponent
  else
    let size := (digits.log2 : Int) / 3
    if 400 < exponent then infinity negative
    else if exponent + size + 1 < -400 then finite negative 0 minExponent
    else round negative (digits * tenTo exponent.toNat) (tenTo (-exponent).toNat)

end Binary64

end DesignLint
