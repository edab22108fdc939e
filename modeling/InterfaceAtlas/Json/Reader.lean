import InterfaceAtlas.Decimal.Nearest
import InterfaceAtlas.Json.Basic

/-!
# Reading JSON

`Json.decode?` reads the text of a value. A number with a fraction or an exponent is a
floating-point number, any other an integer of any size; the numbers that are not finite have names.
Blanks may stand between the tokens.
-/

namespace InterfaceAtlas.Json

/-! ## Strings -/

/-- The value of a hexadecimal digit. -/
def hexValue? (c : Char) : Option Nat :=
  if '0' ≤ c && c ≤ '9' then some (c.toNat - 48)
  else if 'a' ≤ c && c ≤ 'f' then some (c.toNat - 87)
  else if 'A' ≤ c && c ≤ 'F' then some (c.toNat - 55)
  else none

/-- The value of four hexadecimal digits. -/
def hex4? (a b c d : Char) : Option Nat := do
  return (((← hexValue? a) * 16 + (← hexValue? b)) * 16 + (← hexValue? c)) * 16 + (← hexValue? d)

/-- The character that the letter `c` stands for behind a backslash. -/
def unescape? (c : Char) : Option Char :=
  if c = '\x22' || c = '\x5c' || c = '/' then some c
  else if c = 'n' then some '\n'
  else if c = 'r' then some '\r'
  else if c = 't' then some '\t'
  else if c = 'b' then some '\x08'
  else if c = 'f' then some '\x0c'
  else none

/-- The character of two code units: a high surrogate takes the low one behind it. -/
def ofUnits (high low : Nat) : Char :=
  Char.ofNat (0x10000 + (high - 0xd800) * 0x400 + (low - 0xdc00))

/-- Whether a code unit is the first of a pair. -/
def isHigh (n : Nat) : Bool := 0xd800 ≤ n && n < 0xdc00

/-- Whether a code unit is the second of a pair. -/
def isLow (n : Nat) : Bool := 0xdc00 ≤ n && n < 0xe000

/-- The character of one code unit; none for half of a pair. -/
def ofUnit? (n : Nat) : Option Char := if isHigh n || isLow n then none else some (Char.ofNat n)

/-- The characters up to the closing quote, and what follows it. -/
def readText : List Char → Option (List Char × List Char)
  | [] => none
  | '\x22' :: rest => some ([], rest)
  | '\x5c' :: 'u' :: a :: b :: c :: d :: '\x5c' :: 'u' :: e :: f :: g :: h :: rest => do
    let first ← hex4? a b c d
    let second ← hex4? e f g h
    if isHigh first && isLow second then
      (readText rest).map fun (cs, left) => (ofUnits first second :: cs, left)
    else
      let x ← ofUnit? first
      (readText ('\x5c' :: 'u' :: e :: f :: g :: h :: rest)).map fun (cs, left) => (x :: cs, left)
  | '\x5c' :: 'u' :: a :: b :: c :: d :: rest => do
    let x ← ofUnit? (← hex4? a b c d)
    (readText rest).map fun (cs, left) => (x :: cs, left)
  | '\x5c' :: c :: rest => do
    let e ← unescape? c
    (readText rest).map fun (cs, left) => (e :: cs, left)
  | c :: rest =>
    if c.toNat < 0x20 then none
    else (readText rest).map fun (cs, left) => (c :: cs, left)

/-! ## Numbers -/

/-- The exponent of a number, zero if there is none. -/
def readExponent : List Char → Option (Int × Bool × List Char)
  | c :: rest =>
    if c = 'e' || c = 'E' then
      let (negative, digits) := match rest with
        | '-' :: r => (true, r)
        | '+' :: r => (false, r)
        | r => (false, r)
      let ds := digits.takeWhile Char.isDigit
      if ds.isEmpty then none
      else
        let size : Int := Decimal.ofDigits ds
        some (if negative then -size else size, true, digits.dropWhile Char.isDigit)
    else some (0, false, c :: rest)
  | [] => some (0, false, [])

/-- The digits behind a point, if there is one. -/
def readFraction : List Char → Option (List Char × Bool × List Char)
  | '.' :: rest =>
    let ds := rest.takeWhile Char.isDigit
    if ds.isEmpty then none else some (ds, true, rest.dropWhile Char.isDigit)
  | rest => some ([], false, rest)

/-- A number without its sign. -/
def readUnsigned (negative : Bool) (cs : List Char) : Option (Json × List Char) := do
  let whole := cs.takeWhile Char.isDigit
  if whole.isEmpty then none
  let (fraction, hasPoint, afterPoint) ← readFraction (cs.dropWhile Char.isDigit)
  let (e, hasExponent, rest) ← readExponent afterPoint
  if hasPoint || hasExponent then
    let x := Decimal.nearest ⟨Decimal.ofDigits (whole ++ fraction), e - fraction.length⟩
    return (float (if negative then -x else x), rest)
  else
    let n : Int := Decimal.ofDigits whole
    return (int (if negative then -n else n), rest)

/-- The numbers that are not finite, with their names. -/
def namedNumbers : List (List Char × Float) :=
  [("NaN".toList, 0.0 / 0.0), ("Infinity".toList, 1.0 / 0.0), ("-Infinity".toList, -1.0 / 0.0)]

/-- A number at the front of the characters. -/
def readNumber (cs : List Char) : Option (Json × List Char) :=
  match namedNumbers.find? fun (name, _) => name.isPrefixOf cs with
  | some (name, x) => some (float x, cs.drop name.length)
  | none =>
    match cs with
    | '-' :: rest => readUnsigned true rest
    | rest => readUnsigned false rest

/-! ## Values -/

/-- What follows the blanks at the front. -/
def skipBlanks (cs : List Char) : List Char :=
  cs.dropWhile fun c => c = ' ' || c = '\n' || c = '\r' || c = '\t'

mutual

/-- A value at the front of the characters, nested at most `depth` deep. -/
def readValue : Nat → List Char → Option (Json × List Char)
  | 0, _ => none
  | depth + 1, cs =>
    match skipBlanks cs with
    | 'n' :: 'u' :: 'l' :: 'l' :: rest => some (null, rest)
    | 't' :: 'r' :: 'u' :: 'e' :: rest => some (bool true, rest)
    | 'f' :: 'a' :: 'l' :: 's' :: 'e' :: rest => some (bool false, rest)
    | '\x22' :: rest => (readText rest).map fun (s, left) => (text (String.ofList s), left)
    | '[' :: rest =>
      match skipBlanks rest with
      | ']' :: left => some (list [], left)
      | more => (readItems depth more).map fun (items, left) => (list items, left)
    | '\x7b' :: rest =>
      match skipBlanks rest with
      | '\x7d' :: left => some (object [], left)
      | more => (readMembers depth more).map fun (members, left) => (object members, left)
    | rest => readNumber rest

/-- One item or more, up to the closing bracket. -/
def readItems : Nat → List Char → Option (List Json × List Char)
  | 0, _ => none
  | depth + 1, cs => do
    let (v, rest) ← readValue depth cs
    match skipBlanks rest with
    | ',' :: more => (readItems depth more).map fun (items, left) => (v :: items, left)
    | ']' :: left => some ([v], left)
    | _ => none

/-- One member or more, up to the closing brace. -/
def readMembers : Nat → List Char → Option (List (String × Json) × List Char)
  | 0, _ => none
  | depth + 1, cs => do
    match skipBlanks cs with
    | '\x22' :: afterQuote =>
      let (key, afterKey) ← readText afterQuote
      match skipBlanks afterKey with
      | ':' :: beforeValue =>
        let (v, rest) ← readValue depth beforeValue
        let member := (String.ofList key, v)
        match skipBlanks rest with
        | ',' :: more =>
          (readMembers depth more).map fun (members, left) => (member :: members, left)
        | '\x7d' :: left => some ([member], left)
        | _ => none
      | _ => none
    | _ => none

end

/-- The value that a text holds, if it is the text of one. -/
def decode? (s : String) : Option Json :=
  match readValue (s.toList.length + 1) s.toList with
  | some (v, rest) => if (skipBlanks rest).isEmpty then some v else none
  | none => none

end InterfaceAtlas.Json
