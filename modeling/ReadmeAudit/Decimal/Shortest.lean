import ReadmeAudit.Decimal.Binary

/-!
# Shortest decimals

A number of 64 bits is written with the fewest digits that read back as the same number, and of
those with the digits nearest to it. Numbers from `0.0001` to below `10 ^ 16` are written with a
point, others with an exponent of at least two digits.
-/

namespace ReadmeAudit.Decimal

/-- A decimal: its digits and the place of the point relative to the first of them. -/
structure Digits where
  /-- The digits as a number. -/
  value : Nat
  /-- How many digits there are. -/
  count : Nat
  /-- How many digits stand ahead of the point. -/
  point : Int

/-- The least exponent above the logarithm of `number / divisor` to the base ten, looked for from a
guess on downwards. -/
def pointOf (number divisor : Nat) : (fuel : Nat) → (guess : Int) → Int
  | 0, guess => guess
  | fuel + 1, guess =>
    let below : Bool :=
      if 0 ≤ guess - 1 then number < divisor * powerOfTen (guess - 1).toNat
      else number * powerOfTen (1 - guess).toNat < divisor
    if below then pointOf number divisor fuel (guess - 1) else guess

/-- The decimal with the fewest digits, and at least `count` of them, that reads back as the number
`mantissa * 2 ^ exponent`. -/
def shortestFrom (mantissa : Nat) (exponent : Int) (point : Int) : (fuel count : Nat) → Digits
  | 0, count => ⟨0, count, point⟩
  | fuel + 1, count =>
    -- All quantities are multiples of a quarter of the last binary place.
    let (quarter, one) := Binary.scale 1 1 (2 - exponent)
    let shift : Int := count - point
    let (unit, scaleUp) : Nat × Nat :=
      if 0 ≤ shift then (one, powerOfTen shift.toNat) else (one * powerOfTen (-shift).toNat, 1)
    let number := 4 * mantissa * quarter * scaleUp
    let lowGap := if mantissa = 1 <<< 52 && -1074 < exponent then 1 else 2
    let low := number - lowGap * quarter * scaleUp
    let high := number + 2 * quarter * scaleUp
    let isIn (value : Nat) : Bool :=
      let point := value * unit
      if mantissa % 2 = 0 then low ≤ point && point ≤ high else low < point && point < high
    let floor := number / unit
    let nearer := 2 * (number % unit) < unit
      || (2 * (number % unit) == unit && floor % 2 == 0)
    let candidates := if nearer then [floor, floor + 1] else [floor + 1, floor]
    match candidates.find? isIn with
    | some value =>
      if value = powerOfTen count then ⟨1, 1, point + 1⟩ else ⟨value, count, point⟩
    | none => shortestFrom mantissa exponent point fuel (count + 1)

/-- The shortest decimal of a positive number. -/
def shortest (mantissa : Nat) (exponent : Int) : Digits :=
  let (number, divisor) := Binary.scale mantissa 1 (-exponent)
  let guess : Int := (Nat.toDigits 10 number).length - (Nat.toDigits 10 divisor).length + 1
  shortestFrom mantissa exponent (pointOf number divisor 4 guess) 17 1

/-- The digits of a decimal without trailing zeros. -/
def Digits.chars (digits : Digits) : List Char :=
  let all := Nat.toDigits 10 digits.value
  let kept := (all.reverse.dropWhile (· == '0')).reverse
  if kept.isEmpty then ['0'] else kept

/-- The text of a positive decimal. -/
def Digits.text (digits : Digits) : String :=
  let chars := digits.chars
  let point := digits.point
  String.ofList <|
    if -4 < point ∧ point ≤ 16 then
      if point ≤ 0 then ['0', '.'] ++ List.replicate (-point).toNat '0' ++ chars
      else
        let ahead := point.toNat
        if chars.length ≤ ahead then
          chars ++ List.replicate (ahead - chars.length) '0' ++ ['.', '0']
        else chars.take ahead ++ '.' :: chars.drop ahead
    else
      let exponent := point - 1
      let digits := Nat.toDigits 10 exponent.natAbs
      let padded := List.replicate (2 - digits.length) '0' ++ digits
      chars.take 1 ++ (if 1 < chars.length then '.' :: chars.drop 1 else [])
        ++ ['e', if exponent < 0 then '-' else '+'] ++ padded

/-- The text of a number of 64 bits. -/
def Binary.text : Binary → String
  | .nan => "nan"
  | .infinite negative => if negative then "-inf" else "inf"
  | .finite negative mantissa exponent =>
    let sign := if negative then "-" else ""
    if mantissa = 0 then sign ++ "0.0" else sign ++ (shortest mantissa exponent).text

end ReadmeAudit.Decimal
