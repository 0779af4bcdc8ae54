/-
# Binary64 numbers from and to decimals

A decimal is read as the nearest binary number with 53 significant bits, a tie
going to the even one. Such a number is written with the fewest digits that read
back as it, and of several such writings the nearest one, always positionally and
with a point. All arithmetic is on natural numbers.
-/

import NativeLayout.Decimal.Rounding

namespace NativeLayout.Decimal

/-- A binary number, or one of the values that are none. -/
inductive Binary64
  /-- The number `significand * 2 ^ exponent` or its negative. -/
  | finite (negative : Bool) (significand : Nat) (exponent : Int)
  | infinite (negative : Bool)
  | notANumber
deriving DecidableEq, Repr

/-- A fraction as numerator and denominator, times a power of a base. -/
def scaled (base : Nat) (num den : Nat) (exponent : Int) : Nat × Nat :=
  if 0 ≤ exponent then (num * Nat.pow base exponent.toNat, den)
  else (num, den * Nat.pow base (-exponent).toNat)

/-- The exponent of the highest bit of a positive fraction. -/
def highBit (num den : Nat) : Int :=
  let guess : Int := Int.ofNat num.log2 - Int.ofNat den.log2
  let (n, d) := scaled 2 num den (-guess)
  if n < d then guess - 1 else guess

namespace Binary64

/-- The least exponent of a significand. -/
def minExponent : Int := -1074

/-- The least significand that has all its bits, the 52nd power of two. -/
def leastFull : Nat := 4503599627370496

/-- The binary number nearest to a fraction. -/
def ofFraction (negative : Bool) (num den : Nat) : Binary64 :=
  if num = 0 then finite negative 0 minExponent
  else
    let exponent := max minExponent (highBit num den - 52)
    let (n, d) := scaled 2 num den (-exponent)
    let m := nearest n d
    let (m, exponent) := if m = 2 * leastFull then (leastFull, exponent + 1) else (m, exponent)
    if 971 < exponent then infinite negative else finite negative m exponent

/-- The binary number nearest to `digits * 10 ^ exponent`. Exponents far outside the
range are decided without computing the power. -/
def ofDecimal (negative : Bool) (digits : Nat) (exponent : Int) : Binary64 :=
  let size := exponent + Int.ofNat (Nat.toDigits 10 digits).length
  if digits = 0 then finite negative 0 minExponent
  else if 400 < size then infinite negative
  else if size < -400 then finite negative 0 minExponent
  else
    let (n, d) := scaled 10 digits 1 exponent
    ofFraction negative n d

/-- Whether a fraction lies in the interval of what reads as `m * 2 ^ e`. The lower end is
nearer if the number is the least with its exponent; the ends belong to it if the
significand is even. -/
def readsAs (m : Nat) (e : Int) (num den : Nat) : Bool :=
  let lower := if m = leastFull ∧ minExponent < e then 4 * m - 1 else 4 * m - 2
  let (ln, ld) := scaled 2 lower 4 e
  let (un, ud) := scaled 2 (4 * m + 2) 4 e
  if m % 2 = 0 then decide (ln * den ≤ num * ld) && decide (num * ud ≤ un * den)
  else decide (ln * den < num * ld) && decide (num * ud < un * den)

/-- The nearest decimal with its last digit at the given power of ten that reads as
`m * 2 ^ e`, if there is one; of two equally near ones the upper. -/
def onGrid (m : Nat) (e : Int) (power : Int) : Option Nat :=
  let (vn, vd) := scaled 2 m 1 e
  let (gn, gd) := scaled 10 vn vd (-power)
  let low := gn / gd
  let reads (digits : Nat) : Bool :=
    let (n, d) := scaled 10 digits 1 power
    readsAs m e n d
  let preferLow := decide (2 * (gn % gd) < gd)
  let (first, second) := if preferLow then (low, low + 1) else (low + 1, low)
  if 0 < first && reads first then some first
  else if 0 < second && reads second then some second
  else none

/-- The first grid, from coarse to fine, on which the number has a decimal. -/
def shortestFrom (m : Nat) (e : Int) : Nat → Int → Nat × Int
  | 0, power => ((onGrid m e power).getD 0, power)
  | finer + 1, power =>
    match onGrid m e power with
    | some digits => (digits, power)
    | none => shortestFrom m e finer (power - 1)

/-- The power of ten of the first digit of a positive fraction, or one more. -/
def leadingPower (m : Nat) (e : Int) : Int :=
  let (n, d) := scaled 2 m 1 e
  if n < d then 1 - Int.ofNat (Nat.toDigits 10 (d / n)).length + 1
  else Int.ofNat (Nat.toDigits 10 (n / d)).length

/-- The fewest digits that read as `m * 2 ^ e`, and the power of ten of the last one. -/
def shortest (m : Nat) (e : Int) : Nat × Int := shortestFrom m e 19 (leadingPower m e)

/-- A decimal written positionally, with at least one digit on either side of the point. -/
def positional (digits : Nat) (power : Int) : String :=
  let written := Nat.toDigits 10 digits
  if 0 ≤ power then
    String.ofList (written ++ List.replicate power.toNat '0' ++ ['.', '0'])
  else
    let places := (-power).toNat
    let padded := List.replicate (places + 1 - written.length) '0' ++ written
    let whole := padded.length - places
    String.ofList (padded.take whole ++ '.' :: padded.drop whole)

/-- A number as a reader sees it. -/
def display : Binary64 → String
  | notANumber => "NaN"
  | infinite negative => if negative then "-inf" else "inf"
  | finite negative m e =>
    let sign := if negative then "-" else ""
    if m = 0 then sign ++ "0.0"
    else
      let (digits, power) := shortest m e
      sign ++ positional digits power

example : (ofDecimal false 15 (-1)).display = "1.5" := by decide +kernel
example : (ofDecimal false 1 3).display = "1000.0" := by decide +kernel
example : (ofDecimal true 1 (-1)).display = "-0.1" := by decide +kernel
example : (ofDecimal false 9007199254740993 0).display = "9007199254740992.0" := by decide +kernel

end Binary64

end NativeLayout.Decimal
