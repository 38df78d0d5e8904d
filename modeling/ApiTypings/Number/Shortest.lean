import ApiTypings.Number.Double

/-!
# The shortest decimal that reads back

Among the decimals that round to a given double, the one with the fewest digits, and
of those the nearest. For one digit, two digits, and so on, the two neighbours of the
value on the grid of that many digits are tried; the first grid with a hit wins.
-/

namespace ApiTypings

/-- The decimal `digits · 10 ^ exponent`. -/
structure Decimal where
  digits : Nat
  exponent : Int
deriving Repr, DecidableEq

namespace Double

/-- Half of the gap to the next double below is a quarter unit at a power of two. -/
def atBinade (x : Double) : Bool :=
  x.significand == twoPow 52 && x.exponent > -1074

/-- Whether `num / den` rounds to the absolute value of `x`: it lies between the
midpoints to the neighbours of `x`, ends included when the significand is even. -/
def roundsFrom (x : Double) (num den : Nat) : Bool :=
  let scale := x.exponent - 2
  -- the value, and the two midpoints, in quarters of the last binary place
  let v := if 0 ≤ scale then num else num * twoPow (-scale).toNat
  let unit := if 0 ≤ scale then den * twoPow scale.toNat else den
  let low := (4 * x.significand - if x.atBinade then 1 else 2) * unit
  let high := (4 * x.significand + 2) * unit
  if x.significand % 2 = 0 then low ≤ v && v ≤ high else low < v && v < high

/-- The largest `e` with `10 ^ e ≤ num / den`, for positive numbers. -/
def floorLog10 (num den : Nat) : Int :=
  let guess : Int := floorLog2 num den * 30103 / 100000
  let reached (e : Int) : Bool :=
    if 0 ≤ e then den * tenPow e.toNat ≤ num else den ≤ num * tenPow (-e).toNat
  if reached (guess + 1) then guess + 1 else if reached guess then guess else guess - 1

/-- The decimal of at most `count` digits that rounds to `x`, if there is one: the
nearer of the two neighbours of `x` on that grid that do, a tie going to the even. -/
def decimalOf? (x : Double) (count : Nat) : Option Decimal :=
  let (num, den) := x.ratio
  let e := floorLog10 num den - (count - 1 : Nat)
  let p := if 0 ≤ e then num else num * tenPow (-e).toNat
  let q := if 0 ≤ e then den * tenPow e.toNat else den
  let hit (d : Nat) : Bool :=
    if 0 ≤ e then x.roundsFrom (d * tenPow e.toNat) 1 else x.roundsFrom d (tenPow (-e).toNat)
  let below := p / q
  let nearest := roundDiv p q
  let other := if nearest = below then below + 1 else below
  if hit nearest then some ⟨nearest, e⟩ else if hit other then some ⟨other, e⟩ else none

def dropZeros : Nat → Decimal → Decimal
  | 0, d => d
  | fuel + 1, d =>
      if d.digits ≠ 0 ∧ d.digits % 10 = 0 then dropZeros fuel ⟨d.digits / 10, d.exponent + 1⟩
      else d

/-- The shortest decimal that rounds to the absolute value of `x`. Seventeen digits
always do. -/
def shortest (x : Double) : Decimal :=
  if x.significand = 0 then ⟨0, 0⟩
  else
    match (List.range' 1 17).findSome? x.decimalOf? with
    | some d => dropZeros 18 d
    | none => ⟨0, 0⟩

end Double

end ApiTypings
