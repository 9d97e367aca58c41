import AqlPipeline.Double.Basic

/-!
# Doubles as decimal text

Writing takes the fewest digits that read back as the same double, the nearest such number, and an
even last digit between two equally near ones. Reading rounds twice: the digits as an integer, and
its product or quotient with a power of ten.
-/

namespace AqlPipeline.Double

/-! ## The shortest digits -/

/-- The decimal digits of a natural number. -/
def digitsOf (number : Nat) : List Char :=
  Nat.toDigits 10 number

/-- The exponent `k` with `10 ^ (k - 1) ≤ v < 10 ^ k` for a positive `v` of at least `10 ^ -400`. -/
def decimalExponent (ratio : Ratio) : Int :=
  (digitsOf (ratio.num * Nat.pow 10 400 / ratio.den)).length - 400

/-- Whether a fraction rounds to the given positive magnitude. Half way to a neighbour is included
when the mantissa is even. -/
def roundsTo (magnitude : Nat) (ratio : Ratio) : Bool :=
  let quarters := 4 * mantissa magnitude
  let below := if mantissa magnitude = exponentBit ∧ exponent magnitude ≠ -1074 then 1 else 2
  let low := Ratio.scale ⟨quarters - below, 1⟩ 2 (exponent magnitude - 2)
  let high := Ratio.scale ⟨quarters + 2, 1⟩ 2 (exponent magnitude - 2)
  if mantissa magnitude % 2 = 0 then !ratio.less low && !high.less ratio
  else low.less ratio && ratio.less high

/-- The digits of the decimal nearest to a positive magnitude on the grid of multiples of
`10 ^ grid`, if it rounds to the magnitude. -/
def onGrid? (magnitude : Nat) (grid : Int) : Option Nat :=
  let exact := (value magnitude).scale 10 (-grid)
  let down := exact.num / exact.den
  let fits (digits : Nat) : Bool := roundsTo magnitude (Ratio.scale ⟨digits, 1⟩ 10 grid)
  let near := exact.round
  let far := if near = down then down + 1 else down
  if fits near then some near else if fits far then some far else none

/-- The coarsest grid, of `count` ones from `10 ^ grid` on downwards, with a decimal that rounds to
the magnitude, and that decimal as a multiple of the grid. -/
def coarsest (magnitude : Nat) : (count : Nat) → (grid : Int) → Nat × Int
  | 0, grid => (((value magnitude).scale 10 (-grid)).round, grid)
  | count + 1, grid =>
    match onGrid? magnitude grid with
    | some digits => (digits, grid)
    | none => coarsest magnitude count (grid - 1)

/-- The shortest decimal that rounds to a positive magnitude, as a multiple of a power of ten.
Seventeen digits are always enough. -/
def shortest (magnitude : Nat) : Nat × Int :=
  coarsest magnitude 17 (decimalExponent (value magnitude) - 1)

/-! ## Writing -/

/-- The text of digits with the decimal point behind the first `point` of them, positional from
`0.00001` up to below `10 ^ 16`, and else with an exponent that has its sign. -/
def layOut (digits : List Char) (point : Int) : List Char :=
  if -4 ≤ point ∧ point ≤ 0 then
    '0' :: '.' :: List.replicate (-point).toNat '0' ++ digits
  else if 0 < point ∧ point ≤ 16 then
    let whole := point.toNat
    if digits.length ≤ whole then
      digits ++ List.replicate (whole - digits.length) '0' ++ ['.', '0']
    else digits.take whole ++ '.' :: digits.drop whole
  else
    let scale := point - 1
    let sign := if scale < 0 then '-' else '+'
    let tail := 'e' :: sign :: digitsOf scale.natAbs
    match digits with
    | [] => tail
    | [digit] => digit :: tail
    | digit :: more => digit :: '.' :: more ++ tail

/-- The text of a finite double. -/
def toText (double : Double) : String :=
  let sign := if double.isNegative then ['-'] else []
  if double.magnitude = 0 then String.ofList (sign ++ ['0', '.', '0'])
  else
    let (multiple, grid) := shortest double.magnitude
    let digits := digitsOf multiple
    let trimmed := (digits.reverse.dropWhile (· == '0')).reverse
    String.ofList (sign ++ layOut trimmed (grid + digits.length))

/-! ## Reading -/

/-- The magnitude of a power of ten from `0` to `308`. -/
def powerOfTen (power : Nat) : Nat :=
  (nearest? ⟨Nat.pow 10 power, 1⟩).getD 0

/-- A magnitude times a power of ten, rounded. -/
def timesPowerOfTen? (magnitude power : Nat) : Option Nat :=
  let factor := value (powerOfTen power)
  let number := value magnitude
  nearest? ⟨number.num * factor.num, number.den * factor.den⟩

/-- A magnitude divided by a power of ten, rounded. -/
def overPowerOfTen? (magnitude power : Nat) : Option Nat :=
  let divisor := value (powerOfTen power)
  let number := value magnitude
  nearest? ⟨number.num * divisor.den, number.den * divisor.num⟩

/-- Scales a magnitude down by `10 ^ power`, in rounds of at most `10 ^ 308`. What has become zero
stays zero, which happens within the given number of rounds. -/
def scaleDown? : (rounds magnitude power : Nat) → Option Nat
  | 0, _, _ => some 0
  | rounds + 1, magnitude, power =>
    if magnitude = 0 then some 0
    else if power ≤ 308 then overPowerOfTen? magnitude power
    else do
      let scaled ← overPowerOfTen? magnitude 308
      scaleDown? rounds scaled (power - 308)

/-- The double read from an integer and a power of ten: the integer is rounded, then the product.
There is none if it is too large to be finite. -/
def ofDecimal? (negative : Bool) (significand : Nat) (power : Int) : Option Double := do
  let magnitude ← nearest? ⟨significand, 1⟩
  let scaled ←
    if magnitude = 0 then some 0
    else if power < 0 then scaleDown? 4 magnitude power.natAbs
    else if power ≤ 308 then timesPowerOfTen? magnitude power.toNat
    else none
  return ofMagnitude negative scaled

end AqlPipeline.Double
