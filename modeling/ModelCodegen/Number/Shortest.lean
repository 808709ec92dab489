import ModelCodegen.Number.Binary64

/-!
# Shortest decimals

The decimal text of a floating-point number has the fewest digits that read back as the number, and
of several such decimals the nearest one.  The numbers that read back form an interval around the
number, half a unit to either side, its ends included when the significand is even; a grid of
decimals has a member in it exactly when one of the number's two neighbours on the grid is.
-/

namespace ModelCodegen

/-- A decimal `digits * 10 ^ power`. -/
structure Decimal where
  digits : Nat
  power : Int
  deriving DecidableEq, Repr

namespace Binary64

/-- The interval of reals that round to a number, all over one denominator: the lower end, the
number itself and the upper end. -/
structure Neighbourhood where
  low : Nat
  centre : Nat
  high : Nat
  denominator : Nat
  closed : Bool

/-- The reals that round to a positive number. -/
def neighbourhood (x : Binary64) : Neighbourhood :=
  let below := if x.significand = fullPrecision ∧ minExponent < x.exponent then 1 else 2
  let unit := if 0 ≤ x.exponent then Nat.pow 2 x.exponent.toNat else 1
  { low := (4 * x.significand - below) * unit
    centre := 4 * x.significand * unit
    high := (4 * x.significand + 2) * unit
    denominator := if 0 ≤ x.exponent then 4 else 4 * Nat.pow 2 (-x.exponent).toNat
    closed := x.significand % 2 = 0 }

/-- `digits * num / den` lies in the interval. -/
def Neighbourhood.contains (r : Neighbourhood) (digits num den : Nat) : Bool :=
  let value := digits * num * r.denominator
  if r.closed then r.low * den ≤ value && value ≤ r.high * den
  else r.low * den < value && value < r.high * den

/-- The nearest of the centre's two neighbours on the grid of multiples of `10 ^ power` that lies
in the interval, a tie going to the even one. -/
def Neighbourhood.onGrid (r : Neighbourhood) (power : Int) : Option Nat :=
  let num := if 0 ≤ power then Nat.pow 10 power.toNat else 1
  let den := if 0 ≤ power then 1 else Nat.pow 10 (-power).toNat
  let below := r.centre * den / (r.denominator * num)
  let nearest := roundHalfEven (r.centre * den) (r.denominator * num)
  let other := if nearest = below then below + 1 else below
  if r.contains nearest num den then some nearest
  else if r.contains other num den then some other
  else none

/-- Try the grids of the powers from `power` downward. -/
def Neighbourhood.coarsest (r : Neighbourhood) (power : Int) : Nat → Decimal
  | 0 => ⟨0, power⟩
  | tries + 1 =>
    match r.onGrid power with
    | some (n + 1) => ⟨n + 1, power⟩
    | _ => r.coarsest (power - 1) tries

/-- A power of ten above every positive number of this magnitude. -/
def powerAbove (x : Binary64) : Int :=
  let bits : Int := x.significand.log2 + x.exponent + 1
  if 0 ≤ bits then bits * 31 / 100 + 1 else bits * 30 / 100 + 1

/-- The shortest decimal that reads back as a positive number. -/
def shortest (x : Binary64) : Decimal := x.neighbourhood.coarsest x.powerAbove 40

/-- The text of an exact decimal: positional if its first digit has a place between `10 ^ -5` and
`10 ^ 15`, else with an exponent. -/
def decimalText (d : Decimal) : List Char :=
  let digits := Nat.toDigits 10 d.digits
  let first : Int := d.power + digits.length - 1
  if 0 ≤ d.power ∧ first < 16 then
    digits ++ List.replicate d.power.toNat '0' ++ ".0".toList
  else if 0 ≤ first ∧ first < 16 then
    digits.take (first.toNat + 1) ++ '.' :: digits.drop (first.toNat + 1)
  else if -5 ≤ first ∧ first < 0 then
    "0.".toList ++ List.replicate (-first - 1).toNat '0' ++ digits
  else
    let fraction := if digits.length ≤ 1 then [] else '.' :: digits.drop 1
    let sign := if first < 0 then '-' else '+'
    digits.take 1 ++ fraction ++ 'e' :: sign :: Nat.toDigits 10 first.natAbs

/-- The text of a number: always with a point or an exponent. -/
def toChars (x : Binary64) : List Char :=
  (if x.negative then ['-'] else []) ++
    (if x.isZero then "0.0".toList else decimalText x.shortest)

def toText (x : Binary64) : String := String.ofList x.toChars

example : (ofDecimal false 1 (-1)).map toText = some "0.1" := by decide +kernel
example : (ofDecimal true 15 299).map toText = some "-1.5e+300" := by decide +kernel
example : (ofDecimal false 1 15).map toText = some "1000000000000000.0" := by decide +kernel
example : (ofDecimal false 1 16).map toText = some "1e+16" := by decide +kernel
example : (ofDecimal false 1 (-5)).map toText = some "0.00001" := by decide +kernel
example : (ofDecimal false 5 (-324)).map toText = some "5e-324" := by decide +kernel

end Binary64

end ModelCodegen
