/-
# The shortest decimal form of a binary number

The text of a finite number has the fewest significant digits from which the number can be read
back; of several such decimal numbers it is the nearest, and of two equally near the larger.  The
digits are written without an exponent, however many zeros that takes, and there is at least one
digit after the point.
-/

import RecordRegistry.Decimal.Binary

namespace RecordRegistry.Binary

/-- The value of a mantissa and a power of two as a quotient. -/
def quotient (mantissa : Nat) : Int → Nat × Nat
  | .ofNat power => (mantissa * Nat.pow 2 power, 1)
  | .negSucc power => (mantissa, Nat.pow 2 (power + 1))

/-- The power of ten of the first digit of a quotient that is not zero. -/
def leadingPower (numerator denominator : Nat) : Int :=
  if denominator ≤ numerator then decimalLength (numerator / denominator) - 1
  else
    let zeros : Int := decimalLength (denominator / numerator)
    if numerator * Nat.pow 10 (zeros - 1).toNat ≥ denominator then 1 - zeros else -zeros

/-- The two neighbours of a quotient among the decimal numbers with the given least power of ten,
the nearer first, or the larger if they are equally near. -/
def neighbours (numerator denominator : Nat) (power : Int) : List Decimal :=
  let (top, bottom) := match power with
    | .ofNat power => (numerator, denominator * Nat.pow 10 power)
    | .negSucc power => (numerator * Nat.pow 10 (power + 1), denominator)
  let below : Decimal := ⟨top / bottom, power⟩
  let above : Decimal := ⟨top / bottom + 1, power⟩
  if 2 * (top % bottom) < bottom then [below, above] else [above, below]

/-- The decimal number with the fewest digits that reads back as the given number. The search starts
at the power of ten above the number, which is the answer if the number is that close to it. -/
def shortest (mantissa : Nat) (power : Int) : Decimal :=
  let (numerator, denominator) := quotient mantissa power
  let first := leadingPower numerator denominator
  let candidates := (List.range 18).flatMap fun count =>
    neighbours numerator denominator (first + 1 - (count : Nat))
  (candidates.find? fun decimal => nearest false decimal = .finite false mantissa power).getD ⟨0, 0⟩

/-- A decimal number without an exponent. -/
def positional (decimal : Decimal) : String :=
  let digits := Nat.toDigits 10 decimal.digits
  match decimal.power with
  | .ofNat power => String.ofList (digits ++ List.replicate power '0' ++ ['.', '0'])
  | .negSucc power =>
    let places := power + 1
    let padded := List.replicate (places + 1 - digits.length) '0' ++ digits
    let whole := padded.length - places
    String.ofList (padded.take whole ++ '.' :: padded.drop whole)

/-- The text of a number. -/
def text : Binary → String
  | finite negative mantissa power =>
    let sign := if negative then "-" else ""
    if mantissa = 0 then sign ++ "0.0" else sign ++ positional (shortest mantissa power)
  | infinite negative => if negative then "-inf" else "inf"
  | undefined => "NaN"

end RecordRegistry.Binary
