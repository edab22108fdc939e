import InterfaceAtlas.Decimal.Positional

/-!
# Reading decimals

The floating-point number nearest to a decimal.
-/

namespace InterfaceAtlas.Decimal

/-- The number that digits stand for. -/
def ofDigits (ds : List Char) : Nat := ds.foldl (fun n d => n * 10 + (d.toNat - 48)) 0

/-- The floating-point number nearest to a decimal. Beyond the largest and below the smallest of
them the answer does not depend on the digits. -/
def nearest (d : Decimal) : Float :=
  let leading := d.exponent + (natDigits d.digits).length
  if d.digits = 0 then 0.0
  else if 310 < leading then 1.0 / 0.0
  else if leading < -330 then 0.0
  else Float.ofScientific d.digits (d.exponent < 0) d.exponent.natAbs

end InterfaceAtlas.Decimal
