/-
# Binary floating-point numbers

A finite number is a whole number of at most 53 binary digits times a power of two whose exponent
is at least -1074.  `Binary.nearest` takes a decimal number to the nearest such number, and of two
equally near ones to that with an even mantissa.
-/

namespace RecordRegistry

/-- A binary floating-point number of 64 bits. -/
inductive Binary
  /-- The mantissa times the given power of two. -/
  | finite (negative : Bool) (mantissa : Nat) (power : Int)
  | infinite (negative : Bool)
  | undefined
  deriving DecidableEq, Repr

/-- A decimal number that is not negative: digits as a whole number, times a power of ten. -/
structure Decimal where
  digits : Nat
  power : Int
  deriving DecidableEq, Repr

namespace Decimal

/-- A decimal number as a quotient of whole numbers. -/
def quotient (decimal : Decimal) : Nat × Nat :=
  match decimal.power with
  | .ofNat power => (decimal.digits * Nat.pow 10 power, 1)
  | .negSucc power => (decimal.digits, Nat.pow 10 (power + 1))

end Decimal

namespace Binary

/-- The quotient rounded to the nearest whole number, and of two to the even one. -/
def roundedQuotient (numerator denominator : Nat) : Nat :=
  let whole := numerator / denominator
  let twice := 2 * (numerator % denominator)
  if twice < denominator then whole
  else if twice > denominator then whole + 1
  else whole + whole % 2

/-- The quotient of a quotient and a power of two. -/
def scaled (numerator denominator : Nat) (power : Int) : Nat × Nat :=
  match power with
  | .ofNat power => (numerator, denominator * Nat.pow 2 power)
  | .negSucc power => (numerator * Nat.pow 2 (power + 1), denominator)

/-- The least power of two that a number may have. -/
def leastPower : Int := -1074

/-- Numbers from the power of two with this exponent on are infinite. -/
def limitPower : Int := 1024

/-- The power of two in which a quotient has 53 binary digits before the point, unless that is too
small. -/
def powerFor (numerator denominator : Nat) : Int :=
  let guess : Int := (numerator.log2 : Int) - denominator.log2 - 52
  let (top, bottom) := scaled numerator denominator guess
  max leastPower (if top < bottom * Nat.pow 2 52 then guess - 1 else guess)

/-- The number nearest to a quotient that is not negative. -/
def ofQuotient (negative : Bool) (numerator denominator : Nat) : Binary :=
  let power := powerFor numerator denominator
  let (top, bottom) := scaled numerator denominator power
  let mantissa := roundedQuotient top bottom
  let (mantissa, power) :=
    if mantissa = Nat.pow 2 53 then (Nat.pow 2 52, power + 1) else (mantissa, power)
  if limitPower < power + 53 then .infinite negative
  else .finite negative mantissa power

/-- The number of decimal digits of a whole number. -/
def decimalLength (value : Nat) : Nat := (Nat.toDigits 10 value).length

/-- The number nearest to a decimal number. Decimal numbers far outside the range of finite numbers
are not written out. -/
def nearest (negative : Bool) (decimal : Decimal) : Binary :=
  let magnitude := decimal.power + decimalLength decimal.digits
  if decimal.digits = 0 || magnitude < -400 then .finite negative 0 leastPower
  else if magnitude > 400 then .infinite negative
  else ofQuotient negative decimal.quotient.1 decimal.quotient.2

end Binary

end RecordRegistry
