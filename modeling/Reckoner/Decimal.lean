/-! # The text of a float

A float is shown by its shortest decimal in positional notation, a minus sign in front of it when
its sign bit is set, also for zero. Infinities are named, and a NaN has no sign. A float is taken
apart first (`Binary`), then the decimal with the fewest digits is found among those that read back
as it (`RoundingInterval.shortest`), and this one is written without an exponent (`Decimal.chars`).
-/

namespace Reckoner

/-! ## Decimals

A decimal is a natural number times a power of ten. It is written positionally, with neither an
exponent nor a point that nothing follows: the digits of a whole number, or the whole part, a
point and as many places as the exponent asks for.
-/

/-- The number `coefficient * 10 ^ exponent`. -/
structure Decimal where
  coefficient : Nat
  exponent : Int
  deriving DecidableEq, Repr

namespace Decimal

/-- The digits of a natural number, without leading zeros. -/
def digits (n : Nat) : List Char :=
  Nat.toDigits 10 n

/-- A decimal in positional notation. -/
def chars (d : Decimal) : List Char :=
  if 0 ≤ d.exponent then
    digits (d.coefficient * Nat.pow 10 d.exponent.toNat)
  else
    let places := (-d.exponent).toNat
    let one := Nat.pow 10 places
    digits (d.coefficient / one) ++
      '.' :: (digits (d.coefficient % one)).leftpad places '0'

/-- A whole decimal is written by its digits alone. -/
theorem chars_of_nonneg {d : Decimal} (whole : 0 ≤ d.exponent) :
    d.chars = digits (d.coefficient * Nat.pow 10 d.exponent.toNat) := by
  simp [chars, whole]

/-- A decimal with places behind the point is written with a point. -/
theorem point_mem_chars {d : Decimal} (places : d.exponent < 0) : '.' ∈ d.chars := by
  have negative : ¬ 0 ≤ d.exponent := by omega
  simp [chars, negative]

example : chars ⟨5, -3⟩ = "0.005".toList := by decide +kernel

end Decimal

/-! ## Floats taken apart

What the bits of a double-precision float stand for: a sign, and a natural number times a power
of two, an infinity or no number at all.
-/

/-- The value that the bits of a float stand for. A finite one is
`significand * 2 ^ exponent`, with its sign. -/
inductive Binary where
  | finite (negative : Bool) (significand : Nat) (exponent : Int)
  | infinite (negative : Bool)
  | undefined
  deriving DecidableEq, Repr

namespace Binary

/-- The least exponent of a float, that of the subnormal ones. -/
def leastExponent : Int :=
  -1074

/-- The weight of the bit that a normal float does not store. -/
def hiddenBit : Nat :=
  1 <<< 52

/-- Reads one sign bit, eleven bits of exponent and fifty-two bits of fraction. -/
def ofBits (bits : Nat) : Binary :=
  let negative := (bits >>> 63) % 2 == 1
  let biased : Nat := (bits >>> 52) % 2048
  let fraction : Nat := bits % hiddenBit
  if biased = 0 then .finite negative fraction leastExponent
  else if biased < 2047 then .finite negative (hiddenBit + fraction) (biased + leastExponent - 1)
  else if fraction = 0 then .infinite negative
  else .undefined

/-- A float by its parts. -/
def ofFloat (x : Float) : Binary :=
  ofBits x.toBits.toNat

example : ofFloat 1.5 = .finite false (3 * 2 ^ 51) (-52) := by decide +kernel

example : ofFloat (1.0 / 0.0) = .infinite false ∧ ofFloat (0.0 / 0.0) = .undefined := by
  decide +kernel

end Binary

/-! ## The shortest decimal of a float

A finite float is printed as the decimal with the fewest digits among those that read back as it,
and of these as the one nearest to its value; an exact tie goes to the larger. Everything is
decided on natural numbers: the reals that round to the float form an interval, and on the grid
of multiples of a power of ten only the two neighbours of the value can be the nearest point.
-/

/-- The reals that round to one positive float, with its value among them, all in units of
`2 ^ exponent`. They reach halfway to the neighbouring floats; a point halfway belongs to the
interval when the tie between the float and its neighbour goes to the float. -/
structure RoundingInterval where
  low : Nat
  value : Nat
  high : Nat
  closed : Bool
  exponent : Int
  deriving DecidableEq, Repr

/-- The same interval measured against the multiples of `spacing`. -/
structure Grid where
  low : Nat
  value : Nat
  high : Nat
  closed : Bool
  spacing : Nat
  deriving DecidableEq, Repr

namespace Grid

/-- Whether a multiple of the spacing lies in the interval. -/
def contains (grid : Grid) (multiple : Nat) : Bool :=
  if grid.closed then
    grid.low ≤ multiple * grid.spacing && multiple * grid.spacing ≤ grid.high
  else grid.low < multiple * grid.spacing && multiple * grid.spacing < grid.high

/-- The last multiple that does not exceed the value. -/
def below (grid : Grid) : Nat :=
  grid.value / grid.spacing

/-- Whether the value lies nearer to the multiple below it than to the next one. -/
def leansDown (grid : Grid) : Bool :=
  grid.value - grid.below * grid.spacing < (grid.below + 1) * grid.spacing - grid.value

/-- The multiple in the interval that is nearest to the value. -/
def nearest? (grid : Grid) : Option Nat :=
  match grid.contains grid.below, grid.contains (grid.below + 1) with
  | true, true => some (if grid.leansDown then grid.below else grid.below + 1)
  | true, false => some grid.below
  | false, true => some (grid.below + 1)
  | false, false => none

/-- The nearest multiple lies in the interval. -/
theorem contains_of_nearest? {grid : Grid} {multiple : Nat}
    (found : grid.nearest? = some multiple) : grid.contains multiple = true := by
  unfold nearest? at found
  split at found
  · split at found <;> cases found <;> assumption
  · cases found; assumption
  · cases found; assumption
  · cases found

end Grid

namespace RoundingInterval

/-- The interval of `significand * 2 ^ exponent`, in quarters of the last bit. Below a power of two
floats lie twice as dense, so the lower half is then half as wide. -/
def ofBinary (significand : Nat) (exponent : Int) : RoundingInterval where
  low := 4 * significand -
    if significand = Binary.hiddenBit ∧ Binary.leastExponent < exponent then 1 else 2
  value := 4 * significand
  high := 4 * significand + 2
  closed := significand % 2 == 0
  exponent := exponent - 2

/-- The interval against the multiples of a power of ten. Negative powers, of two on the one side
and of ten on the other, are multiplied out. -/
def grid (interval : RoundingInterval) (exponent : Int) : Grid :=
  let scale := Nat.pow 10 (-exponent).toNat * Nat.pow 2 interval.exponent.toNat
  { low := interval.low * scale
    value := interval.value * scale
    high := interval.high * scale
    closed := interval.closed
    spacing := Nat.pow 10 exponent.toNat * Nat.pow 2 (-interval.exponent).toNat }

/-- The multiple of a power of ten that is nearest to the value among those in the interval. -/
def onGrid? (interval : RoundingInterval) (exponent : Int) : Option Decimal :=
  (interval.grid exponent).nearest?.map fun multiple => ⟨multiple, exponent⟩

/-- An exponent whose power of ten is at least the value, so that no coarser grid has a point in
the interval: one from the digits of the whole part, or from those of the inverse's. -/
def coarsest (interval : RoundingInterval) : Int :=
  let units := interval.value * Nat.pow 2 interval.exponent.toNat
  let one := Nat.pow 2 (-interval.exponent).toNat
  if one ≤ units then (Decimal.digits (units / one)).length
  else 1 - ((Decimal.digits (one / units)).length : Int)

/-- The value as a decimal, which is exact: a power of two with a negative exponent is a power of
five on a grid of tenths. -/
def exactly (interval : RoundingInterval) : Decimal :=
  if 0 ≤ interval.exponent then ⟨interval.value * Nat.pow 2 interval.exponent.toNat, 0⟩
  else ⟨interval.value * Nat.pow 5 (-interval.exponent).toNat, interval.exponent⟩

/-- The decimal on the first grid that has a point in the interval, of so many grids that each is
ten times finer than the one before. -/
def firstOnGrids? (interval : RoundingInterval) (start : Int) (count : Nat) : Option Decimal :=
  (List.range count).findSome? fun (finer : Nat) => interval.onGrid? (start - finer)

/-- The decimal on the coarsest grid that has a point in the interval. The search ends at the latest
on the grid of the exact value. -/
def shortest (interval : RoundingInterval) : Decimal :=
  let start := interval.coarsest
  let exact := interval.exactly
  (interval.firstOnGrids? start ((start - exact.exponent).toNat + 1)).getD exact

end RoundingInterval

/-! ## Texts -/

namespace Decimal

/-- The characters of a finite float without its sign. -/
def magnitudeChars (significand : Nat) (exponent : Int) : List Char :=
  if significand = 0 then ['0']
  else (RoundingInterval.ofBinary significand exponent).shortest.chars

/-- A minus sign where one is due. -/
def signed (negative : Bool) (magnitude : List Char) : List Char :=
  if negative then '-' :: magnitude else magnitude

/-- The characters that show what a float's bits stand for. -/
def binaryChars : Binary → List Char
  | .finite negative significand exponent => signed negative (magnitudeChars significand exponent)
  | .infinite negative => signed negative ['i', 'n', 'f']
  | .undefined => ['N', 'a', 'N']

/-- A float as it is shown everywhere. -/
def floatText (x : Float) : String :=
  String.ofList (binaryChars (Binary.ofFloat x))

example : floatText (0.1 + 0.2) = "0.30000000000000004" := by decide +kernel

example : floatText 1e23 = "100000000000000000000000" := by decide +kernel

/-- The least positive float has one digit, the nearest of several that would do. -/
example :
    floatText (Float.ofBits 1) =
      String.ofList (['0', '.'] ++ List.replicate 323 '0' ++ ['5']) := by
  decide +kernel

end Decimal

end Reckoner
