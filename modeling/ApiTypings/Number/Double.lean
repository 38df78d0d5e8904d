/-!
# Doubles as exact dyadic numbers

A finite double is a sign, a significand below `2 ^ 53` and a power of two. All
arithmetic here is exact arithmetic on natural numbers followed by one rounding to
the nearest double, a tie going to the even significand.
-/

namespace ApiTypings

/-- The finite double `± significand · 2 ^ exponent`. -/
structure Double where
  negative : Bool
  significand : Nat
  exponent : Int
deriving Repr, DecidableEq

def twoPow (n : Nat) : Nat := Nat.pow 2 n

def tenPow (n : Nat) : Nat := Nat.pow 10 n

/-- The quotient rounded to the nearest natural number, ties to even. -/
def roundDiv (num den : Nat) : Nat :=
  let q := num / den
  let r := num % den
  if 2 * r > den ∨ (2 * r = den ∧ q % 2 = 1) then q + 1 else q

namespace Double

def zero (negative : Bool) : Double := ⟨negative, 0, -1074⟩

/-- The largest `e` with `2 ^ e ≤ num / den`, for positive numbers. -/
def floorLog2 (num den : Nat) : Int :=
  let e : Int := (num.log2 : Int) - den.log2
  let reached := if 0 ≤ e then den * twoPow e.toNat ≤ num else den ≤ num * twoPow (-e).toNat
  if reached then e else e - 1

/-- The double nearest to `± num / den`; none when it would be infinite. -/
def ofRatio? (negative : Bool) (num den : Nat) : Option Double :=
  if num = 0 then some (zero negative)
  else
    let e := max (floorLog2 num den - 52) (-1074)
    let m :=
      if 0 ≤ e then roundDiv num (den * twoPow e.toNat)
      else roundDiv (num * twoPow (-e).toNat) den
    let (m, e) := if m = twoPow 53 then (twoPow 52, e + 1) else (m, e)
    if e > 971 then none else some ⟨negative, m, e⟩

/-- The double nearest to `± digits · 10 ^ exponent`; none when it would be infinite.
Powers far outside the range of doubles are not computed. -/
def ofDecimal? (negative : Bool) (digits : Nat) (exponent : Int) : Option Double :=
  if digits = 0 then some (zero negative)
  else
    let size : Int := (toString digits).length + exponent
    if 310 < size then none
    else if size < -330 then some (zero negative)
    else if 0 ≤ exponent then ofRatio? negative (digits * tenPow exponent.toNat) 1
    else ofRatio? negative digits (tenPow (-exponent).toNat)

def ratio (x : Double) : Nat × Nat :=
  if 0 ≤ x.exponent then (x.significand * twoPow x.exponent.toNat, 1)
  else (x.significand, twoPow (-x.exponent).toNat)

def neg (x : Double) : Double := { x with negative := !x.negative }

def pow10? (n : Nat) : Option Double := ofRatio? false (tenPow n) 1

def mul? (x y : Double) : Option Double :=
  ofRatio? false (x.ratio.1 * y.ratio.1) (x.ratio.2 * y.ratio.2)

def div? (x y : Double) : Option Double :=
  ofRatio? false (x.ratio.1 * y.ratio.2) (x.ratio.2 * y.ratio.1)

/-- Divides by `10 ^ n`, in steps of at most `10 ^ 308`, the largest power of ten that
is a double. -/
def divPow10? (x : Double) (n : Nat) : Option Double :=
  if n ≤ 308 then do x.div? (← pow10? n)
  else if x.significand = 0 then some x
  else do
    let scaled ← x.div? (← pow10? 308)
    scaled.divPow10? (n - 308)
termination_by n

def mulPow10? (x : Double) (n : Nat) : Option Double :=
  if n ≤ 308 then do x.mul? (← pow10? n)
  else if x.significand = 0 then some x
  else none

/-- The value of `significand · 10 ^ exponent` when the significand is rounded to a
double first and the scaling is rounded after it. -/
def scaled? (significand : Nat) (exponent : Int) : Option Double := do
  let x ← ofRatio? false significand 1
  if 0 ≤ exponent then x.mulPow10? exponent.toNat else x.divPow10? (-exponent).toNat

end Double

end ApiTypings
