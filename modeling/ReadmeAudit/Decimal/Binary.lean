/-!
# Binary fractions

A `Binary` is a number as a machine word of 64 bits represents it: a mantissa of up to 53 bits with
a power of two, an infinity, or no number. `Binary.nearest` rounds a quotient of natural numbers to
the nearest such number, and of two equally near ones to the one with an even mantissa.
-/

namespace ReadmeAudit.Decimal

/-- The quotient of two numbers, rounded to the nearest one, a half going to the even neighbour. -/
def roundDiv (number divisor : Nat) : Nat :=
  let quotient := number / divisor
  let rest := number % divisor
  if divisor < 2 * rest || (2 * rest == divisor && quotient % 2 == 1) then quotient + 1
  else quotient

/-- A power of ten. -/
def powerOfTen (exponent : Nat) : Nat := Nat.pow 10 exponent

/-- A number of 64 bits. -/
inductive Binary where
  /-- The number `mantissa * 2 ^ exponent`, with a sign. -/
  | finite (negative : Bool) (mantissa : Nat) (exponent : Int)
  /-- An infinity. -/
  | infinite (negative : Bool)
  /-- No number. -/
  | nan
deriving Repr, DecidableEq

namespace Binary

/-- The quotient `number / divisor` divided by a power of two, as a quotient. -/
def scale (number divisor : Nat) (exponent : Int) : Nat × Nat :=
  if 0 ≤ exponent then (number, divisor <<< exponent.toNat)
  else (number <<< (-exponent).toNat, divisor)

/-- The number nearest to a quotient, with a sign. -/
def nearest (negative : Bool) (number divisor : Nat) : Binary :=
  if number = 0 then finite negative 0 0
  else
    let guess : Int := (Nat.log2 number : Int) - Nat.log2 divisor - 52
    let (scaled, unit) := scale number divisor guess
    let exponent := max (-1074) (if scaled < unit <<< 52 then guess - 1 else guess)
    let (scaled, unit) := scale number divisor exponent
    let mantissa := roundDiv scaled unit
    let (mantissa, exponent) :=
      if mantissa = 1 <<< 53 then (1 <<< 52, exponent + 1) else (mantissa, exponent)
    if 971 < exponent then infinite negative else finite negative mantissa exponent

/-- The number nearest to `digits * 10 ^ exponent`, with a sign. -/
def ofDecimal (negative : Bool) (digits : Nat) (exponent : Int) : Binary :=
  let magnitude : Int := (Nat.toDigits 10 digits).length + exponent
  if digits = 0 || magnitude < -330 then finite negative 0 0
  else if 330 < magnitude then infinite negative
  else if 0 ≤ exponent then nearest negative (digits * powerOfTen exponent.toNat) 1
  else nearest negative digits (powerOfTen (-exponent).toNat)

end Binary

/-! ### Fixed places -/

/-- A number of digits with a point ahead of the last `places`. -/
def withPoint (places value : Nat) : String :=
  let digits := Nat.toDigits 10 value
  let digits := List.replicate (places + 1 - digits.length) '0' ++ digits
  let ahead := digits.length - places
  String.ofList (digits.take ahead ++ '.' :: digits.drop ahead)

/-- The number of 64 bits nearest to a fraction, written with a fixed number of places, a half going
to the even neighbour. -/
def fixed (places : Nat) (value : Rat) : String :=
  match Binary.nearest false value.num.natAbs value.den with
  | .finite _ mantissa exponent =>
    let (number, divisor) := Binary.scale (mantissa * powerOfTen places) 1 (-exponent)
    withPoint places (roundDiv number divisor)
  | _ => ""

end ReadmeAudit.Decimal
