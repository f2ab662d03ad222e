import Avatar.Text

/-! # Binary fractions of sixty-four bits

    A number with a fraction or an exponent is read as the nearest value
    of the 64-bit binary format, a tie going to the even significand.
    The value is kept exactly, as a significand times a power of two, so
    that comparing it with an integer is exact too. -/

namespace Avatar

/-- A value of the 64-bit binary format. -/
inductive Binary64
  /-- `significand` times two to the `exponent`, below zero if
      `negative`. -/
  | finite (negative : Bool) (significand : Nat) (exponent : Int)
  | infinite (negative : Bool)
  | notANumber
deriving DecidableEq

namespace Binary64

/-- The quotient rounded to the nearest integer, a tie going to the even
    one. -/
def divideToEven (numerator denominator : Nat) : Nat :=
  let q := numerator / denominator
  let twice := 2 * (numerator % denominator)
  if twice < denominator then q
  else if denominator < twice then q + 1
  else q + q % 2

/-- The quotient in units of two to the `exponent`. -/
def roundAt (numerator denominator : Nat) (exponent : Int) : Nat :=
  divideToEven (numerator <<< (-exponent).toNat) (denominator <<< exponent.toNat)

/-- The exponent at which a quotient has fifty-three bits, but never one
    below the least exponent of the format. -/
def exponentOf (numerator denominator : Nat) : Int :=
  let guess : Int := (numerator.log2 : Int) - denominator.log2 - 52
  let q := (numerator <<< (-guess).toNat) / (denominator <<< guess.toNat)
  max (-1074) (if q < 1 <<< 52 then guess - 1 else guess)

/-- The value nearest to a quotient of positive numbers. -/
def ofQuotient (negative : Bool) (numerator denominator : Nat) : Binary64 :=
  let exponent := exponentOf numerator denominator
  let significand := roundAt numerator denominator exponent
  if significand = 1 <<< 53 then
    if 970 < exponent then .infinite negative else .finite negative (1 <<< 52) (exponent + 1)
  else if 971 < exponent then .infinite negative
  else .finite negative significand exponent

/-- The value nearest to `significand` times ten to the `exponent`.  A
    number of more than 310 digits before the point is infinite and one
    that starts after 330 zeros is zero, so no huge power is taken. -/
def ofDecimal (negative : Bool) (significand : Nat) (exponent : Int) : Binary64 :=
  let digits : Int := (Nat.toDigits 10 significand).length
  if significand = 0 then .finite negative 0 0
  else if 310 < digits + exponent then .infinite negative
  else if digits + exponent < -330 then .finite negative 0 0
  else ofQuotient negative (significand * Nat.pow 10 exponent.toNat) (Nat.pow 10 (-exponent).toNat)

/-- Whether the value is a positive integer. -/
def isNat (n : Nat) : Binary64 → Bool
  | .finite false significand exponent =>
    significand <<< exponent.toNat = n <<< (-exponent).toNat
  | _ => false

/-- The value as a fraction. -/
def toRat? : Binary64 → Option Rat
  | .finite negative significand exponent =>
    let size := mkRat (significand <<< exponent.toNat) (1 <<< (-exponent).toNat)
    some (if negative then -size else size)
  | _ => none

end Binary64

end Avatar
