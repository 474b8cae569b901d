import DesignLint.Number.Binary64
import DesignLint.Text.Basic

/-! # Shortest decimals

The decimal text of a binary number: the fewest digits that identify it among all binary numbers,
and of those the nearest to it. Exponents from -4 to 15 are written positionally, others with a
sign and at least two digits. -/

namespace DesignLint.Binary64

/-- `digits * 10 ^ exponent`. -/
structure Decimal where
  /-- The digits as a number. -/
  digits : Nat
  /-- The power of ten. -/
  exponent : Int
  deriving Repr, DecidableEq

/-- Compares `a * 10 ^ i` with `n * 2 ^ j`. -/
def compareScaled (a : Nat) (i : Int) (n : Nat) (j : Int) : Ordering :=
  compare (a * tenTo i.toNat * twoTo (-j).toNat) (n * twoTo j.toNat * tenTo (-i).toNat)

/-- Whether a decimal rounds to `mantissa * 2 ^ exponent`. It does between the midpoints to both
neighbours, and at a midpoint if the mantissa is even. The neighbour below a power of two is half
as far away as the one above, except at the least exponent. -/
def identifies (mantissa : Nat) (exponent : Int) (d : Decimal) : Bool :=
  let narrow := mantissa = twoTo 52 ∧ minExponent < exponent
  let low := compareScaled d.digits d.exponent
    (if narrow then 4 * mantissa - 1 else 4 * mantissa - 2) (exponent - 2)
  let high := compareScaled d.digits d.exponent (4 * mantissa + 2) (exponent - 2)
  let closed := mantissa % 2 == 0
  (low == .gt || (closed && low == .eq)) && (high == .lt || (closed && high == .eq))

/-- The least `k` with `mantissa * 2 ^ exponent < 10 ^ k`, for a mantissa that is not zero. The
binary logarithm gives an estimate that is at most two too small. -/
def decimalScale (mantissa : Nat) (exponent : Int) : Int :=
  -- 30103 / 100000 is the decimal logarithm of two.
  let estimate := ((mantissa.log2 : Int) + exponent) * 30103 / 100000
  ([0, 1, 2, 3].map (estimate + ·)).find?
    (fun k => compareScaled 1 k mantissa exponent == .gt) |>.getD (estimate + 4)

/-- The decimals next to `mantissa * 2 ^ exponent` that are multiples of `10 ^ grid`, the nearer
one first; the one with even digits first if both are equally near. -/
def neighbours (mantissa : Nat) (exponent grid : Int) : List Decimal :=
  let num := mantissa * twoTo exponent.toNat * tenTo (-grid).toNat
  let den := twoTo (-exponent).toNat * tenTo grid.toNat
  let below := num / den
  let nearest := roundQuotient num den
  if nearest = below then [⟨below, grid⟩, ⟨below + 1, grid⟩]
  else [⟨below + 1, grid⟩, ⟨below, grid⟩]

/-- The decimal of the fewest digits that identifies `mantissa * 2 ^ exponent`. Seventeen digits
always suffice. -/
def shortest (mantissa : Nat) (exponent : Int) : Decimal :=
  let scale := decimalScale mantissa exponent
  let found := (List.range 17).findSome? fun (count : Nat) =>
    (neighbours mantissa exponent (scale - (count + 1))).find? (identifies mantissa exponent)
  found.getD
    ⟨mantissa * twoTo exponent.toNat * tenTo (-exponent).toNat / twoTo (-exponent).toNat,
      min exponent 0⟩

/-- Digits without trailing zeros, and the number of zeros that are dropped. -/
def dropTrailingZeros (digits : Text) : Text × Nat :=
  let zeros := (digits.reverse.takeWhile (· == '0')).length
  (digits.take (digits.length - zeros), zeros)

/-- The digits of a number with a decimal exponent, laid out. -/
def layout (d : Decimal) : Text :=
  let (digits, zeros) := dropTrailingZeros (Text.ofNat d.digits)
  let exponent := d.exponent + zeros
  let leading := exponent + digits.length - 1
  if leading < -4 || 15 < leading then
    let fraction := digits.drop 1
    let power := Text.ofNat leading.natAbs
    digits.take 1 ++ (if fraction.isEmpty then [] else '.' :: fraction) ++
      ['e', if leading < 0 then '-' else '+'] ++ (if power.length < 2 then '0' :: power else power)
  else if leading < 0 then
    "0.".toList ++ List.replicate (-leading - 1).toNat '0' ++ digits
  else
    let whole := leading.toNat + 1
    let padded := digits ++ List.replicate (whole - digits.length) '0'
    let fraction := padded.drop whole
    padded.take whole ++ '.' :: (if fraction.isEmpty then ['0'] else fraction)

/-- The decimal text of a number. -/
def text : Binary64 → Text
  | nan => "nan".toList
  | infinity negative => (if negative then ['-'] else []) ++ "inf".toList
  | finite negative mantissa exponent =>
    (if negative then ['-'] else []) ++
      if mantissa = 0 then "0.0".toList else layout (shortest mantissa exponent)

end DesignLint.Binary64
