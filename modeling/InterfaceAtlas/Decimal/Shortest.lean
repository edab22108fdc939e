/-!
# Shortest decimals

A binary floating-point number stands for all reals that round to it. `Decimal.shortest` gives the
decimal with the fewest digits among these reals, and of several the one nearest to the number: for
1, 2, ... 17 digits it tests the two neighbours of the number on that grid of decimals, in exact
arithmetic.
-/

namespace InterfaceAtlas

/-- The decimal `digits · 10 ^ exponent`. -/
structure Decimal where
  digits : Nat
  exponent : Int
deriving DecidableEq, Repr, Inhabited

/-- A positive number `mantissa · 2 ^ exponent` with the distance to its lower neighbour. -/
structure Binary where
  mantissa : Nat
  exponent : Int
  /-- The lower neighbour is half as far as the upper one. -/
  narrow : Bool
deriving DecidableEq, Repr, Inhabited

namespace Binary

/-- The finite number with the given bits, its sign left out. -/
def ofBits (bits : Nat) : Binary :=
  let fraction : Nat := bits % Nat.pow 2 52
  let biased : Nat := bits / Nat.pow 2 52 % Nat.pow 2 11
  if biased = 0 then ⟨fraction, -1074, false⟩
  else ⟨Nat.pow 2 52 + fraction, (biased : Int) - 1075, fraction == 0 && biased > 1⟩

end Binary

namespace Decimal

/-- The fraction `n · base ^ e` as numerator and denominator. -/
def scaled (n base : Nat) (e : Int) : Nat × Nat :=
  if 0 ≤ e then (n * Nat.pow base e.toNat, 1) else (n, Nat.pow base (-e).toNat)

/-- The exponent of the first digit of `p / q`, for `p` above zero. -/
def leading (p q : Nat) : Int :=
  if q ≤ p then ((Nat.toDigits 10 (p / q)).length : Int) - 1
  else -(((List.range 400).find? fun j => q ≤ p * Nat.pow 10 j).getD 400 : Nat)

/-- Whether `x` rounds to the number: it lies between the halfway points, which themselves count for
an even mantissa. -/
def within (lower upper : Nat) (even : Bool) (x : Nat) : Bool :=
  if even then lower ≤ x && x ≤ upper else lower < x && x < upper

/-- The decimal of `n` digits that rounds to the number `b` and is nearest to it; an exact tie goes
to the even last digit. -/
def onGrid? (b : Binary) (n : Nat) : Option Decimal :=
  -- Quarters of the last binary place, so that both halfway points are whole.
  let (p, q) := scaled (4 * b.mantissa) 2 (b.exponent - 2)
  let (unit, _) := scaled 1 2 (b.exponent - 2)
  let lower := p - (if b.narrow then 1 else 2) * unit
  let upper := p + 2 * unit
  let e := leading p q - (n : Int) + 1
  let (g, h) := scaled 1 10 e
  -- A grid point `d` is `d · g / h`; times `h · q`, everything is whole.
  let value := p * h
  let step := g * q
  let d := value / step
  let fits (d : Nat) : Bool := within (lower * h) (upper * h) (b.mantissa % 2 == 0) (d * step)
  let below := value - d * step
  let above := (d + 1) * step - value
  match fits d, fits (d + 1) with
  | false, false => none
  | true, false => some ⟨d, e⟩
  | false, true => some ⟨d + 1, e⟩
  | true, true =>
    if below < above || below == above && d % 2 == 0 then some ⟨d, e⟩ else some ⟨d + 1, e⟩

/-- The shortest decimal that rounds to a positive number. -/
def shortest (b : Binary) : Decimal :=
  ((List.range 17).findSome? fun n => onGrid? b (n + 1)).getD ⟨b.mantissa, b.exponent⟩

end Decimal

end InterfaceAtlas
