import InterfaceAtlas.Text.Printable

/-!
# Quoted texts

Messages show texts in quotes: in single quotes, or in double quotes if the text has a single quote
and no double one. The quote in use, the backslash and what is not printable are escaped.
-/

namespace InterfaceAtlas.Text.Quoted

/-- The quote around a text. -/
def quoteFor (cs : List Char) : Char :=
  if cs.contains '\x27' && !cs.contains '\x22' then '\x22' else '\x27'

/-- The `width` last hexadecimal digits of a number. -/
def hexDigits (width n : Nat) : List Char :=
  (List.range width).reverse.map fun i => Nat.digitChar (n / Nat.pow 16 i % 16)

/-- A character as it stands between quotes. -/
def escape (quote c : Char) : List Char :=
  if c == quote || c == '\x5c' then ['\x5c', c]
  else if c == '\n' then ['\x5c', 'n']
  else if c == '\r' then ['\x5c', 'r']
  else if c == '\t' then ['\x5c', 't']
  else if isPrintable c then [c]
  else if c.toNat < 0x100 then '\x5c' :: 'x' :: hexDigits 2 c.toNat
  else if c.toNat < 0x10000 then '\x5c' :: 'u' :: hexDigits 4 c.toNat
  else '\x5c' :: 'U' :: hexDigits 8 c.toNat

/-- A text in quotes. -/
def render (s : String) : String :=
  let quote := quoteFor s.toList
  String.ofList (quote :: s.toList.flatMap (escape quote) ++ [quote])

/-- The byte `b` as it stands between quotes. -/
def escapeByte (quote : Char) (b : UInt8) : List Char :=
  if b < 0x80 then escape quote (Char.ofNat b.toNat) else '\x5c' :: 'x' :: hexDigits 2 b.toNat

/-- A byte string in quotes, marked by a `b`. -/
def renderBytes (bytes : List UInt8) : String :=
  let quote := quoteFor (bytes.map fun b => Char.ofNat b.toNat)
  String.ofList ('b' :: quote :: bytes.flatMap (escapeByte quote) ++ [quote])

/-- Texts in quotes between brackets, as messages list names. -/
def renderList (names : List String) : String :=
  "[" ++ ", ".intercalate (names.map render) ++ "]"

/-- Texts in quotes between parentheses; a single one is followed by a comma. -/
def renderTuple : List String → String
  | [name] => "(" ++ render name ++ ",)"
  | names => "(" ++ ", ".intercalate (names.map render) ++ ")"

end InterfaceAtlas.Text.Quoted
