import TableForge.Decimal.Binary64

/-!
# The shortest decimal that reads back

Every real number in an interval around a double-precision number rounds to it. `shortest` looks
for the coarsest decimal grid, at one to seventeen significant digits, that has a point in this
interval. If any point of a grid lies in the interval then one of the two neighbours of the number
itself does, so only these are tried; of two hits the nearer is taken, and of two equally near ones
the upper. All comparisons are between natural numbers.
-/
namespace TableForge.Binary64

/-- The reals that round to `mantissa · 2 ^ exponent`, in quarters of the last binary place. The
interval below a power of two is half as long; the ends belong to it when the mantissa is even. -/
structure RoundingInterval where
  low : Nat
  middle : Nat
  high : Nat
  closed : Bool
deriving DecidableEq, Repr

def roundingInterval (mantissa : Nat) (exponent : Int) : RoundingInterval where
  low :=
    if mantissa = Nat.pow 2 (mantissaBits - 1) ∧ minExponent < exponent then 4 * mantissa - 1
    else 4 * mantissa - 2
  middle := 4 * mantissa
  high := 4 * mantissa + 2
  closed := mantissa % 2 == 0

/-- Whether the grid point `point · grid` lies in the interval, whose numbers count in `unit`. -/
def RoundingInterval.holds (i : RoundingInterval) (unit grid point : Nat) : Bool :=
  if i.closed then i.low * unit ≤ point * grid && point * grid ≤ i.high * unit
  else i.low * unit < point * grid && point * grid < i.high * unit

/-- The point of the grid that is to be written, if the grid has one in the interval. -/
def RoundingInterval.pick? (i : RoundingInterval) (unit grid : Nat) : Option Nat :=
  let below := i.middle * unit / grid
  let above := below + 1
  match i.holds unit grid below, i.holds unit grid above with
  | true, false => some below
  | false, true => some above
  | true, true =>
    if 2 * (i.middle * unit % grid) < grid then some below else some above
  | false, false => none

/-- Tries the grids `10 ^ place`, `10 ^ (place - 1)` and so on. -/
def searchGrids (i : RoundingInterval) (exponent : Int) : Nat → Int → Nat × Int
  | 0, place => (0, place)
  | tries + 1, place =>
    let unit := Nat.pow 2 exponent.toNat * Nat.pow 10 (-place).toNat
    let grid := Nat.pow 10 place.toNat * Nat.pow 2 (-exponent).toNat
    match i.pick? unit grid with
    | some point => (point, place)
    | none => searchGrids i exponent tries (place - 1)

/-- The largest `e` with `10 ^ e ≤ mantissa · 2 ^ exponent`, for a positive double-precision
number. -/
def decimalOrder (mantissa : Nat) (exponent : Int) : Int :=
  let shift : Nat := 400
  let scaled :=
    mantissa * Nat.pow 2 exponent.toNat * Nat.pow 10 shift / Nat.pow 2 (-exponent).toNat
  (digitCount scaled : Int) - 1 - shift

/-- Digits and decimal exponent of the shortest decimal that rounds to the positive number
`mantissa · 2 ^ exponent`. -/
def shortest (mantissa : Nat) (exponent : Int) : Nat × Int :=
  searchGrids (roundingInterval mantissa exponent) (exponent - 2) 17
    (decimalOrder mantissa exponent)

end TableForge.Binary64
