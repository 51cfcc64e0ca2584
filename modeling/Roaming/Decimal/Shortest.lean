namespace Roaming.Decimal

/-! The shortest decimal that reads back as a given binary fraction, and of those the nearest. -/

/-- A positive number and the interval of numbers that round to it, over one denominator. -/
structure Neighborhood where
  low : Nat
  value : Nat
  high : Nat
  denominator : Nat
  /-- Whether the ends round to the number as well. -/
  closed : Bool

/-- The decimal number `digits * 10 ^ exponent`. -/
structure Numeral where
  digits : Nat
  exponent : Int
deriving DecidableEq

/-- Bounds are kept in quarters of the last place, as the lower one is nearer below a power of
two. -/
def neighborhood (x : Float) : Neighborhood :=
  let bits := x.toBits.toNat
  let fraction := bits % Nat.pow 2 52
  let biased := bits / Nat.pow 2 52 % Nat.pow 2 11
  let mantissa := if biased = 0 then fraction else fraction + Nat.pow 2 52
  let exponent : Int := ((max biased 1 : Nat) : Int) - 1077
  let below := if fraction = 0 ∧ 1 < biased then 1 else 2
  let scale := Nat.pow 2 exponent.toNat
  { low := (4 * mantissa - below) * scale
    value := 4 * mantissa * scale
    high := (4 * mantissa + 2) * scale
    denominator := Nat.pow 2 (-exponent).toNat
    closed := mantissa % 2 = 0 }

namespace Neighborhood

def holds (n : Neighborhood) (numerator factor : Nat) : Bool :=
  if n.closed then
    n.low * factor ≤ numerator && numerator ≤ n.high * factor
  else n.low * factor < numerator && numerator < n.high * factor

/-- The exponent of the first decimal digit. -/
def magnitude (n : Neighborhood) : Int :=
  if n.denominator ≤ n.value then
    (Nat.toDigits 10 (n.value / n.denominator)).length - 1
  else
    let places := (List.range 400).find? fun places =>
      n.denominator ≤ n.value * Nat.pow 10 places
    Int.negOfNat (places.getD 0)

/-- Of the two multiples of a power of ten around the number, the nearest that reads back. -/
def onGrid? (n : Neighborhood) (exponent : Int) : Option Numeral :=
  let factor := Nat.pow 10 (-exponent).toNat
  let unit := n.denominator * Nat.pow 10 exponent.toNat
  let down := n.value * factor / unit
  let rest := n.value * factor % unit
  let upNearer := unit < 2 * rest || (unit = 2 * rest && down % 2 = 1)
  let downHolds := n.holds (down * unit) factor
  let upHolds := n.holds ((down + 1) * unit) factor
  if upHolds && (upNearer || !downHolds) then some ⟨down + 1, exponent⟩
  else if downHolds then some ⟨down, exponent⟩
  else none

end Neighborhood

/-- Moves zeros at the end of the digits into the exponent. -/
def trimZeros : (fuel : Nat) → Numeral → Numeral
  | 0, numeral => numeral
  | fuel + 1, numeral =>
      if numeral.digits % 10 = 0 ∧ numeral.digits ≠ 0 then
        trimZeros fuel ⟨numeral.digits / 10, numeral.exponent + 1⟩
      else numeral

/-- Seventeen digits always suffice. -/
def shortest (x : Float) : Numeral :=
  let n := neighborhood x
  let found := (List.range 17).findSome? fun (count : Nat) =>
    n.onGrid? (n.magnitude - (count : Int))
  trimZeros 18 (found.getD ⟨0, 0⟩)

end Roaming.Decimal
