/-!
# The shortest decimal of a binary number

A binary floating-point number stands for an interval of reals: those that
round to it. Its shortest decimal is the one with the fewest digits in that
interval, and of these the nearest to the number itself.

`Binary.shortest` finds it in exact arithmetic: it tries the grids of multiples
of a power of ten from the coarsest on, and on each grid the two neighbours of
the number. Where a grid meets the interval at all, one of these two lies in it.

`Decimal.text` writes the digits down: positional where `Layout` says so, and
with an exponent otherwise.
-/

namespace ChatRelay

/-- A positive binary number `significand * 2 ^ exponent` together with what its interval needs. -/
structure Binary where
  significand : Nat
  exponent : Int
  /-- The next smaller number is only half as far away as the next larger one. -/
  narrowBelow : Bool
  deriving DecidableEq, Repr

/-- A decimal number `digits * 10 ^ exponent`. -/
structure Decimal where
  digits : Nat
  exponent : Int
  deriving DecidableEq, Repr

namespace Binary

/-- The number and the ends of its interval as multiples of `1 / scale`. -/
structure Interval where
  lower : Nat
  value : Nat
  upper : Nat
  scale : Nat
  /-- Whether the ends round to the number too. -/
  closed : Bool

/-- The interval of reals that round to the number; a tie goes to the even significand. -/
def interval (b : Binary) : Interval :=
  let up := Nat.pow 2 (b.exponent - 2).toNat
  { lower := (4 * b.significand - if b.narrowBelow then 1 else 2) * up
    value := 4 * b.significand * up
    upper := (4 * b.significand + 2) * up
    scale := Nat.pow 2 (2 - b.exponent).toNat
    closed := b.significand % 2 == 0 }

/-- Whether `n / scale` lies in the interval. -/
def Interval.holds (i : Interval) (n : Nat) : Bool :=
  if i.closed then i.lower ≤ n && n ≤ i.upper else i.lower < n && n < i.upper

/-- The point of the grid of multiples of `10 ^ k` that stands for the number, if one does. -/
def Interval.onGrid (i : Interval) (k : Int) : Option Decimal :=
  let step := i.scale * Nat.pow 10 k.toNat
  let i := { i with
    lower := i.lower * Nat.pow 10 (-k).toNat
    value := i.value * Nat.pow 10 (-k).toNat
    upper := i.upper * Nat.pow 10 (-k).toNat }
  let below := i.value / step
  let belowFits := below > 0 && i.holds (below * step)
  let aboveFits := i.holds ((below + 1) * step)
  let belowIsNearer :=
    let toBelow := i.value - below * step
    let toAbove := (below + 1) * step - i.value
    toBelow < toAbove || (toBelow == toAbove && below % 2 == 0)
  if belowFits && (belowIsNearer || !aboveFits) then some ⟨below, k⟩
  else bif aboveFits then some ⟨below + 1, k⟩
  else none

/-- The first grid that meets the interval, from `10 ^ k` down over `fuel` powers of ten. -/
def Interval.coarsest (i : Interval) : Nat → Int → Decimal
  | 0, k => ⟨0, k⟩
  | fuel + 1, k => (i.onGrid k).getD (i.coarsest fuel (k - 1))

/-- The decimal with the fewest digits that rounds to the number. -/
def shortest (b : Binary) : Decimal :=
  let i := b.interval
  let top := (Nat.toDigits 10 (i.value / i.scale)).length
  i.coarsest (top + (2 - b.exponent).toNat + 2) top

end Binary

/-- How a decimal is laid out. -/
structure Layout where
  /-- The least and the greatest power of ten of a leading digit that is written positionally. -/
  leastFixed : Int
  greatestFixed : Int

/-- Numbers of double precision. -/
def Layout.double : Layout := ⟨-5, 15⟩

/-- Numbers of single precision. -/
def Layout.single : Layout := ⟨-6, 12⟩

/-- A number in decimal digits, with zeros in front up to `width`. -/
def paddedDigits (width n : Nat) : List Char :=
  let ds := Nat.toDigits 10 n
  List.replicate (width - ds.length) '0' ++ ds

/-- The text of a decimal. It always has a point or an exponent, and the exponent a sign and two
digits or more. -/
def Decimal.text (l : Layout) (d : Decimal) : List Char :=
  let ds := Nat.toDigits 10 d.digits
  let leading := d.exponent + ds.length - 1
  if l.leastFixed ≤ leading ∧ leading ≤ l.greatestFixed then
    if leading < 0 then
      ['0', '.'] ++ List.replicate (-leading - 1).toNat '0' ++ ds
    else
      let whole := leading.toNat + 1
      let ds := ds ++ List.replicate (whole - ds.length) '0'
      let part := ds.drop whole
      ds.take whole ++ ['.'] ++ (if part.isEmpty then ['0'] else part)
  else
    let mantissa := match ds with
      | [d] => [d]
      | d :: ds => d :: '.' :: ds
      | [] => []
    mantissa ++ ['e', if leading < 0 then '-' else '+'] ++ paddedDigits 2 leading.natAbs

/-- The finite positive number with these exponent and fraction fields, where the fraction has
`width` bits and `bias` is the exponent of the last place of the smallest number. -/
def Binary.ofFields (width : Nat) (bias : Int) (exponent fraction : Nat) : Binary :=
  if exponent = 0 then ⟨fraction, bias, false⟩
  else ⟨Nat.pow 2 width + fraction, bias + exponent - 1, fraction == 0 && exponent > 1⟩

/-- The text of a number of double precision, or nothing when it is not finite. -/
def doubleText (x : Float) : Option String :=
  let bits := x.toBits.toNat
  let exponent := bits / Nat.pow 2 52 % Nat.pow 2 11
  let fraction := bits % Nat.pow 2 52
  let sign := if bits / Nat.pow 2 63 = 1 then ['-'] else []
  if exponent = 2047 then none
  else if exponent = 0 ∧ fraction = 0 then some (String.ofList (sign ++ ['0', '.', '0']))
  else
    let d := (Binary.ofFields 52 (-1074) exponent fraction).shortest
    some (String.ofList (sign ++ d.text .double))

/-- The text of a number of single precision, or nothing when it is not finite. -/
def singleText (x : Float32) : Option String :=
  let bits := x.toBits.toNat
  let exponent := bits / Nat.pow 2 23 % Nat.pow 2 8
  let fraction := bits % Nat.pow 2 23
  let sign := if bits / Nat.pow 2 31 = 1 then ['-'] else []
  if exponent = 255 then none
  else if exponent = 0 ∧ fraction = 0 then some (String.ofList (sign ++ ['0', '.', '0']))
  else
    let d := (Binary.ofFields 23 (-149) exponent fraction).shortest
    some (String.ofList (sign ++ d.text .single))

end ChatRelay
