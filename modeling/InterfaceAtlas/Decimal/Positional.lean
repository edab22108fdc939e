import InterfaceAtlas.Decimal.Shortest

/-!
# Numbers as text

Floating-point numbers are written with the fewest digits that read back. From `0.0001` up to ten
to the sixteenth they are written positionally, with at least one digit behind the point; all
others with an exponent of two digits or more and its sign.
-/

namespace InterfaceAtlas.Decimal

/-- The digits of an integer. -/
def natDigits (n : Nat) : List Char := Nat.toDigits 10 n

/-- An integer as text. -/
def ofInt (n : Int) : String :=
  match n with
  | .ofNat n => String.ofList (natDigits n)
  | .negSucc n => String.ofList ('-' :: natDigits (n + 1))

/-- The digits with a point behind the first `point` ones; zeros fill what is missing. -/
def placePoint (ds : List Char) (point : Int) : List Char :=
  if point ≤ 0 then '0' :: '.' :: List.replicate (-point).toNat '0' ++ ds
  else if ds.length ≤ point.toNat then
    ds ++ List.replicate (point.toNat - ds.length) '0' ++ ['.', '0']
  else ds.take point.toNat ++ '.' :: ds.drop point.toNat

/-- The digits with a point behind the first one, and the exponent. -/
def withExponent (ds : List Char) (e : Int) : List Char :=
  let tail := ds.drop 1
  let size := natDigits e.natAbs
  ds.take 1 ++ (if tail.isEmpty then [] else '.' :: tail)
    ++ 'e' :: (if e < 0 then '-' else '+')
    :: (if size.length < 2 then '0' :: size else size)

/-- A decimal without the zeros at its end. -/
def significant (ds : List Char) : List Char := (ds.reverse.dropWhile (· == '0')).reverse

/-- A positive decimal as text. -/
def render (d : Decimal) : List Char :=
  let all := natDigits d.digits
  let point := (all.length : Int) + d.exponent
  if -4 < point && point ≤ 16 then placePoint (significant all) point
  else withExponent (significant all) (point - 1)

/-- A floating-point number as text. -/
def ofFloat (x : Float) : String :=
  if x.isNaN then "nan"
  else
    let bits := x.toBits.toNat
    let sign := if bits / Nat.pow 2 63 = 1 then ['-'] else []
    if x.isInf then String.ofList (sign ++ ['i', 'n', 'f'])
    else if bits % Nat.pow 2 63 = 0 then String.ofList (sign ++ ['0', '.', '0'])
    else String.ofList (sign ++ render (shortest (Binary.ofBits (bits % Nat.pow 2 63))))

end InterfaceAtlas.Decimal
